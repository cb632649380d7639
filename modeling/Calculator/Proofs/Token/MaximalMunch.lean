import Calculator.Proofs.Token.Word
import Mathlib.Data.List.Sort

/-!
# Strict scanning is maximal munch

`Token.MaximalMunch` says what it means that words split a text: each is the text in its span, they
stand in order, they leave out the blank characters and nothing else, and a run of digits and points
is never cut. A text has just one such split (`MaximalMunch.eq`), and under strict settings it is
the one that is scanned.
-/

namespace Calculator

/-- The text in a span. -/
def Span.slice (span : Span) (source : String) : String :=
  String.ofList ((source.toList.drop span.start).take (span.stop - span.start))

theorem Span.mem_slice_iff {span : Span} {source : String} {c : Char} :
    c ∈ (span.slice source).toList ↔ ∃ index, span.Covers index ∧ source.toList[index]? = some c := by
  rw [slice, String.toList_ofList, List.mem_iff_getElem?]
  constructor
  · rintro ⟨offset, found⟩
    obtain ⟨below, -⟩ := List.getElem?_eq_some_iff.mp found
    have inside : offset < span.stop - span.start := by
      rw [List.length_take] at below
      omega
    rw [List.getElem?_take_of_lt inside, List.getElem?_drop] at found
    exact ⟨span.start + offset, ⟨by omega, by omega⟩, found⟩
  · rintro ⟨index, ⟨least, most⟩, found⟩
    refine ⟨index - span.start, ?_⟩
    rw [List.getElem?_take_of_lt (by omega), List.getElem?_drop]
    rwa [Nat.add_sub_cancel' least]

namespace Token

/-- How words split a text: blank characters stand between them, numbers are as long as they can
be, and every other character is a word by itself. -/
structure MaximalMunch (source : String) (words : List Token) : Prop where
  plain : ∀ word ∈ words, word.kind ≠ .endOfInput
  nonempty : ∀ word ∈ words, word.text ≠ ""
  within : ∀ word ∈ words, word.span.stop ≤ source.length
  text_eq : ∀ word ∈ words, word.text = word.span.slice source
  ordered : words.Pairwise fun first second => first.span.stop ≤ second.span.start
  isBlank_iff : ∀ index c, source.toList[index]? = some c →
    (Text.isBlank c = true ↔ ∀ word ∈ words, ¬ word.span.Covers index)
  number_iff : ∀ word ∈ words, word.kind = .number ↔ ∀ c ∈ word.text.toList, isNumeral c = true
  longest : ∀ word ∈ words, word.kind = .number → ∀ index c, source.toList[index]? = some c →
    index + 1 = word.span.start ∨ index = word.span.stop → isNumeral c = false
  symbol : ∀ index c kind, source.toList[index]? = some c → Kind.ofSymbol? c = some kind →
    ⟨kind, String.singleton c, ⟨index, index + 1⟩⟩ ∈ words
  unknown : ∀ index c, source.toList[index]? = some c → isUnrecognised c = true →
    ⟨.unknown, String.singleton c, ⟨index, index + 1⟩⟩ ∈ words

namespace MaximalMunch

variable {source : String} {words others : List Token} {word other : Token} {index : Nat}
  {c : Char}

theorem start_lt_stop (munch : MaximalMunch source words) (member : word ∈ words) :
    word.span.start < word.span.stop := by
  refine Nat.lt_of_not_le fun empty => munch.nonempty word member ?_
  rw [munch.text_eq word member, Span.slice, Nat.sub_eq_zero_of_le empty, List.take_zero,
    String.ofList_nil]

theorem mem_text (munch : MaximalMunch source words) (member : word ∈ words)
    (covers : word.span.Covers index) (found : source.toList[index]? = some c) :
    c ∈ word.text.toList := by
  rw [munch.text_eq word member]
  exact Span.mem_slice_iff.mpr ⟨index, covers, found⟩

theorem visible (munch : MaximalMunch source words) (member : word ∈ words)
    (covers : word.span.Covers index) (found : source.toList[index]? = some c) :
    Text.isBlank c = false := by
  refine Bool.eq_false_iff.mpr fun blank => ?_
  exact (munch.isBlank_iff index c found).mp blank word member covers

/-- Two words at one position are the same. -/
theorem eq_of_covers (munch : MaximalMunch source words) (member : word ∈ words)
    (memberOther : other ∈ words) (covers : word.span.Covers index)
    (coversOther : other.span.Covers index) : word = other := by
  let Apart : Token → Token → Prop := fun first second =>
    first.span.stop ≤ second.span.start ∨ second.span.stop ≤ first.span.start
  have symmetric : Std.Symm Apart := ⟨fun _ _ => Or.symm⟩
  have apart : words.Pairwise Apart := munch.ordered.imp Or.inl
  by_contra different
  obtain ⟨least, most⟩ := covers
  obtain ⟨leastOther, mostOther⟩ := coversOther
  rcases apart.forall member memberOther different with before | after <;> omega

/-- A character that is no part of a number and not blank is a word. -/
theorem mem_of_single (munch : MaximalMunch source words) (found : source.toList[index]? = some c)
    (single : isNumeral c = false) (visible : Text.isBlank c = false) :
    ⟨.ofChar c, String.singleton c, ⟨index, index + 1⟩⟩ ∈ words := by
  cases symbol : Kind.ofSymbol? c with
  | some kind =>
    rw [Kind.ofChar_symbol symbol]
    exact munch.symbol index c kind found symbol
  | none =>
    have unknown : isUnrecognised c = true := isUnrecognised_iff.mpr ⟨single, visible, symbol⟩
    rw [Kind.ofChar_unrecognised unknown]
    exact munch.unknown index c found unknown

/-- A word that holds a character which is no part of a number is that character. -/
theorem eq_of_single (munch : MaximalMunch source words) (member : word ∈ words)
    (covers : word.span.Covers index) (found : source.toList[index]? = some c)
    (single : isNumeral c = false) :
    word = ⟨.ofChar c, String.singleton c, ⟨index, index + 1⟩⟩ := by
  have own := munch.mem_of_single found single (munch.visible member covers found)
  exact munch.eq_of_covers member own covers ⟨Nat.le_refl _, Nat.lt_succ_self _⟩

/-- A word that holds a digit or a point is a number. -/
theorem kind_eq_number (munch : MaximalMunch source words) (member : word ∈ words)
    (covers : word.span.Covers index) (found : source.toList[index]? = some c)
    (numeral : isNumeral c = true) : word.kind = .number := by
  rw [munch.number_iff word member]
  intro d inside
  refine Bool.of_not_eq_false fun single => ?_
  rw [munch.text_eq word member] at inside
  obtain ⟨place, coversPlace, foundPlace⟩ := Span.mem_slice_iff.mp inside
  obtain rfl := munch.eq_of_single member coversPlace foundPlace single
  have same : index = place := by
    have := covers.1
    have := covers.2
    simp only at *
    omega
  subst same
  obtain rfl := Option.some.inj (found.symm.trans foundPlace)
  rw [single] at numeral
  cases numeral

/-- No number of one split ends beside a digit or a point of a number of another. -/
theorem covers_of_covers (munch : MaximalMunch source words) (munchOther : MaximalMunch source others)
    (member : word ∈ words) (memberOther : other ∈ others) (number : word.kind = .number)
    (numberOther : other.kind = .number) (covers : word.span.Covers index)
    (coversOther : other.span.Covers index) :
    word.span.start ≤ other.span.start ∧ other.span.stop ≤ word.span.stop := by
  have inside (place : Nat) (covered : other.span.Covers place)
      (beside : place + 1 = word.span.start ∨ place = word.span.stop) : False := by
    have below : place < source.toList.length := by
      rw [String.length_toList]
      exact Nat.lt_of_lt_of_le covered.2 (munchOther.within other memberOther)
    have found := List.getElem?_eq_getElem below
    have single := munch.longest word member number place _ found beside
    rw [(munchOther.number_iff other memberOther).mp numberOther _
      (munchOther.mem_text memberOther covered found)] at single
    cases single
  obtain ⟨least, most⟩ := covers
  obtain ⟨leastOther, mostOther⟩ := coversOther
  constructor
  · by_contra earlier
    exact inside (word.span.start - 1) ⟨by omega, by omega⟩ (.inl (by omega))
  · by_contra later
    exact inside word.span.stop ⟨by omega, by omega⟩ (.inr rfl)

/-- The words of one split are words of every other. -/
theorem subset (munch : MaximalMunch source words) (munchOther : MaximalMunch source others)
    (member : word ∈ words) : word ∈ others := by
  have below : word.span.start < source.toList.length := by
    rw [String.length_toList]
    exact Nat.lt_of_lt_of_le (munch.start_lt_stop member) (munch.within word member)
  have found := List.getElem?_eq_getElem below
  have covers : word.span.Covers word.span.start := ⟨Nat.le_refl _, munch.start_lt_stop member⟩
  have visible := munch.visible member covers found
  by_cases single : isNumeral source.toList[word.span.start] = false
  case pos =>
    rw [munch.eq_of_single member covers found single]
    exact munchOther.mem_of_single found single visible
  have numeral := Bool.of_not_eq_false single
  obtain ⟨other, memberOther, coversOther⟩ :
      ∃ other ∈ others, other.span.Covers word.span.start := by
    by_contra none
    push Not at none
    rw [(munchOther.isBlank_iff _ _ found).mpr none] at visible
    cases visible
  have number := munch.kind_eq_number member covers found numeral
  have numberOther := munchOther.kind_eq_number memberOther coversOther found numeral
  have one := munch.covers_of_covers munchOther member memberOther number numberOther covers
    coversOther
  have two := munchOther.covers_of_covers munch memberOther member numberOther number coversOther
    covers
  have same : word = other := by
    have span : word.span = other.span :=
      congrArg₂ Span.mk (Nat.le_antisymm one.1 two.1) (Nat.le_antisymm two.2 one.2)
    have text : word.text = other.text := by
      rw [munch.text_eq word member, munchOther.text_eq other memberOther, span]
    rw [Token.mk.injEq]
    exact ⟨number.trans numberOther.symm, text, span⟩
  rwa [same]

/-- A text has one split at most. -/
theorem eq (munch : MaximalMunch source words) (munchOther : MaximalMunch source others) :
    words = others := by
  let before : Token → Token → Prop := fun first second => first.span.start < second.span.start
  have irreflexive : Std.Irrefl before := ⟨fun word => Nat.lt_irrefl word.span.start⟩
  have antisymmetric : Std.Antisymm before :=
    ⟨fun first second one other => absurd one (Nat.lt_asymm other)⟩
  have sorted {list : List Token} (split : MaximalMunch source list) : list.Pairwise before :=
    split.ordered.imp_of_mem fun member _ le =>
      Nat.lt_of_lt_of_le (split.start_lt_stop member) le
  refine (sorted munch).eq_of_mem_iff (sorted munchOther) fun word => ⟨?_, ?_⟩
  · exact munch.subset munchOther
  · exact munchOther.subset munch

end MaximalMunch

variable {word : Token}

/-- Where nothing is dropped, a word is a stretch of the text that goes on neither before nor after
it. -/
theorem exists_stretch {text : List Char} (member : word ∈ ofMarks text.zipIdx) :
    ∃ before inside after, text = before ++ inside ++ after ∧ inside ≠ [] ∧
      word.text = String.ofList inside ∧
      word.span = ⟨before.length, before.length + inside.length⟩ ∧
      (∀ last ∈ before.getLast?, ∀ first ∈ inside.head?,
        (isNumeral last && isNumeral first) = false) ∧
      (∀ last ∈ inside.getLast?, ∀ first ∈ after.head?,
        (isNumeral last && isNumeral first) = false) := by
  obtain ⟨first, rest, found, -, rfl⟩ := mem_ofMarks_iff.mp member
  obtain ⟨front, back, split, apartBefore, apartAfter⟩ := exists_neighbours found
  obtain ⟨start, after, whole, head, rfl⟩ := List.zipIdx_eq_append_iff.mp split
  obtain ⟨before, inside, rfl, rfl, piece⟩ := List.zipIdx_eq_append_iff.mp head.symm
  rw [Nat.zero_add] at piece
  have begun : first.2 = before.length := by
    obtain ⟨c, others, -, same, -⟩ := List.zipIdx_eq_cons_iff.mp piece.symm
    exact congrArg Prod.snd same
  rw [piece] at apartBefore apartAfter
  refine ⟨before, inside, after, whole, ?_, ?_, ?_, by simpa using apartBefore,
    by simpa using apartAfter⟩
  · rintro rfl
    cases piece
  · rw [piece, textOf, List.zipIdx_map_fst]
  · exact congrArg₂ Span.mk begun (snd_getLastD_zipIdx piece.symm)

/-- The characters next to a number are neither digits nor points. -/
theorem longest_of_mem {source : String} (member : word ∈ ofMarks source.toList.zipIdx)
    (number : word.kind = .number) (index : Nat) (c : Char) (found : source.toList[index]? = some c)
    (beside : index + 1 = word.span.start ∨ index = word.span.stop) : isNumeral c = false := by
  have numeral := (kind_eq_number_iff member).mp number
  obtain ⟨before, inside, after, whole, some, text, span, apartBefore, apartAfter⟩ :=
    exists_stretch member
  rw [text, String.toList_ofList] at numeral
  rw [whole, List.append_assoc] at found
  replace beside : index + 1 = before.length ∨ index = before.length + inside.length := by
    rwa [span] at beside
  rcases beside with last | next
  · have ended : before.getLast? = Option.some c := by
      rw [List.getElem?_append_left (by omega)] at found
      rw [List.getLast?_eq_getElem?, ← found, ← last, Nat.add_sub_cancel]
    have single := apartBefore c ended (inside.head some) (List.head?_eq_some_head some)
    rwa [numeral _ (List.head_mem some), Bool.and_true] at single
  · have begun : after.head? = Option.some c := by
      rw [next, List.getElem?_append_right (Nat.le_add_right _ _), Nat.add_sub_cancel_left,
        List.getElem?_append_right (Nat.le_refl _), Nat.sub_self] at found
      rw [List.head?_eq_getElem?, found]
    have single := apartAfter _ (List.getLast?_eq_some_getLast some) c begun
    rwa [numeral _ (List.getLast_mem some), Bool.true_and] at single

/-- Under strict settings a text is scanned into a maximal split. -/
theorem maximalMunch_ofMarks (source : String) :
    MaximalMunch source (ofMarks source.toList.zipIdx) := by
  have sorted := Settings.pairwise_zipIdx source.toList 0
  have marks : source.toList.zipIdx = (default : Settings).marks source.toList :=
    (Settings.marks_eq_zipIdx (fun _ _ => rfl) 0).symm
  have text_eq {word : Token} (member : word ∈ ofMarks source.toList.zipIdx) :
      word.text = word.span.slice source := by
    obtain ⟨before, inside, after, whole, -, text, span, -⟩ := exists_stretch member
    simp [text, span, Span.slice, whole]
  refine
    { plain := fun word => kind_ne_of_mem_ofMarks
      nonempty := ?nonempty
      within := ?within
      text_eq := fun word => text_eq
      ordered := pairwise_ofMarks sorted
      isBlank_iff := ?isBlank
      number_iff := fun word => kind_eq_number_iff
      longest := fun word => longest_of_mem
      symbol := ?symbol
      unknown := ?unknown }
  case nonempty =>
    intro word member
    obtain ⟨before, inside, after, -, some, text, -⟩ := exists_stretch member
    simpa [text] using some
  case within =>
    intro word member
    rw [marks] at member
    rw [← String.length_toList]
    exact stop_le_of_mem_ofMarks member
  case isBlank =>
    intro index c found
    refine ⟨fun blank word member covers => ?_, fun outside => ?_⟩
    · have inside : c ∈ word.text.toList := by
        rw [text_eq member]
        exact Span.mem_slice_iff.mpr ⟨index, covers, found⟩
      rw [isBlank_of_mem_text member c inside] at blank
      cases blank
    · by_contra visible
      have marked : (c, index) ∈ source.toList.zipIdx := List.mem_zipIdx_iff_getElem?.mpr found
      obtain ⟨word, member, covers⟩ := exists_covers sorted marked (Bool.eq_false_iff.mpr visible)
      exact outside word member covers
  case symbol =>
    intro index c kind found symbol
    obtain ⟨single, visible⟩ := single_of_ofSymbol? symbol
    have marked : (c, index) ∈ source.toList.zipIdx := List.mem_zipIdx_iff_getElem?.mpr found
    have own := mem_ofMarks_of_single marked single visible
    rwa [Kind.ofChar_symbol symbol] at own
  case unknown =>
    intro index c found unknown
    obtain ⟨single, visible, -⟩ := isUnrecognised_iff.mp unknown
    have marked : (c, index) ∈ source.toList.zipIdx := List.mem_zipIdx_iff_getElem?.mpr found
    have own := mem_ofMarks_of_single marked single visible
    rwa [Kind.ofChar_unrecognised unknown] at own

/-- Under strict settings a text is scanned into its one maximal split, and a mark for its end. -/
theorem scan_strict_eq_iff (settings : Settings) (source : String) (tokens : List Token) :
    scan (settings.withStrict true) source = tokens ↔
      ∃ words, tokens = words ++ [finish source.length] ∧ MaximalMunch source words := by
  have munch := maximalMunch_ofMarks source
  have marks : (settings.withStrict true).marks source.toList = source.toList.zipIdx :=
    Settings.marks_eq_zipIdx (fun _ _ => rfl) 0
  rw [scan_eq, marks]
  constructor
  · rintro rfl
    exact ⟨_, rfl, munch⟩
  · rintro ⟨words, rfl, other⟩
    rw [munch.eq other]

end Token

end Calculator

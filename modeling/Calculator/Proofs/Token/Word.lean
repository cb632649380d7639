import Calculator.Proofs.Token.Scan

/-!
# Words and their places

A word of a text, that is a token other than the mark for its end, starts at a character of its own
kind and lies before the words that follow. Which characters it holds is told by its piece: a run
of digits and points, or a single other character.
-/

namespace Calculator

/-- Whether a position is that of a character in the span. -/
def Span.Covers (span : Span) (position : Nat) : Prop :=
  span.start ≤ position ∧ position < span.stop

section Pieces

variable {marks piece : List Mark} {mark : Mark}

theorem flatten_pieces (marks : List Mark) : (pieces marks).flatten = marks :=
  List.flatten_splitBy _ marks

theorem mem_of_mem_pieces (member : piece ∈ pieces marks) (inside : mark ∈ piece) :
    mark ∈ marks := by
  rw [← flatten_pieces marks]
  exact List.mem_flatten.mpr ⟨piece, member, inside⟩

theorem exists_piece (member : mark ∈ marks) : ∃ piece ∈ pieces marks, mark ∈ piece := by
  rw [← flatten_pieces marks] at member
  exact List.mem_flatten.mp member

/-- A piece is a run of digits and points or a single other character. -/
theorem numeral_or_single (member : piece ∈ pieces marks) :
    (∀ mark ∈ piece, isNumeral mark.1 = true) ∨
      ∃ mark, piece = [mark] ∧ isNumeral mark.1 = false := by
  have chain := List.isChain_of_mem_splitBy member
  match piece with
  | [] => exact .inl (by simp)
  | [mark] =>
    cases numeral : isNumeral mark.1 with
    | true => exact .inl (by simpa using numeral)
    | false => exact .inr ⟨mark, rfl, numeral⟩
  | first :: second :: rest =>
    refine .inl fun mark inside => ?_
    -- every character of a longer piece has a neighbour there
    rw [List.isChain_iff_getElem] at chain
    obtain ⟨index, below, rfl⟩ := List.mem_iff_getElem.mp inside
    match index with
    | 0 => exact (Bool.and_eq_true_iff.mp (chain 0 (by simp))).1
    | before + 1 => exact (Bool.and_eq_true_iff.mp (chain before below)).2

/-- No digit or point stands next to a run of them. -/
theorem exists_neighbours (member : piece ∈ pieces marks) :
    ∃ before after, marks = before ++ piece ++ after ∧
      (∀ last ∈ before.getLast?, ∀ first ∈ piece.head?,
        (isNumeral last.1 && isNumeral first.1) = false) ∧
      (∀ last ∈ piece.getLast?, ∀ first ∈ after.head?,
        (isNumeral last.1 && isNumeral first.1) = false) := by
  obtain ⟨front, back, split⟩ := List.append_of_mem member
  have whole : (front ++ piece :: back).flatten = marks := by rw [← split, flatten_pieces]
  have apart := List.isChain_getLast_head_splitBy
    (fun (first second : Mark) => isNumeral first.1 && isNumeral second.1) marks
  have nonempty : [] ∉ front ++ piece :: back := by
    rw [← split]
    exact List.nil_notMem_splitBy _ marks
  rw [← pieces, split, List.isChain_append, List.isChain_cons] at apart
  refine ⟨front.flatten, back.flatten, by simp [← whole], ?_, ?_⟩
  · intro last ended first begun
    cases front using List.reverseRecOn with
    | nil => simp at ended
    | append_singleton front neighbour _ =>
      obtain ⟨some, others, single⟩ := apart.2.2 neighbour (by simp) piece (by simp)
      rw [List.flatten_concat, List.getLast?_append_of_ne_nil _ some,
        List.getLast?_eq_some_getLast some] at ended
      rw [List.head?_eq_some_head others] at begun
      cases ended
      cases begun
      exact single
  · intro last ended first begun
    cases back with
    | nil => simp at begun
    | cons neighbour back =>
      obtain ⟨some, others, single⟩ := apart.2.1.1 neighbour (by simp)
      rw [List.getLast?_eq_some_getLast some] at ended
      rw [List.flatten_cons, List.head?_append_of_ne_nil _ others,
        List.head?_eq_some_head others] at begun
      cases ended
      cases begun
      exact single

end Pieces

namespace Settings

variable {settings : Settings} {text : List Char} {mark : Mark}

theorem pairwise_zipIdx (text : List Char) (position : Nat) :
    (text.zipIdx position).Pairwise fun first second => first.2 < second.2 := by
  rw [← List.pairwise_map (f := Prod.snd) (R := (· < ·)), List.zipIdx_map_snd]
  exact List.pairwise_lt_range'

theorem pairwise_marks (settings : Settings) (text : List Char) :
    (settings.marks text).Pairwise fun first second => first.2 < second.2 :=
  (pairwise_zipIdx text 0).filter _

theorem getElem?_of_mem_marks (member : mark ∈ settings.marks text) :
    text[mark.2]? = some mark.1 ∧ settings.keeps mark.1 = true := by
  obtain ⟨inside, kept⟩ := List.mem_filter.mp member
  exact ⟨List.mem_zipIdx_iff_getElem?.mp inside, kept⟩

end Settings

namespace Token

variable {settings : Settings} {marks : List Mark} {word : Token} {text : List Char}

theorem ofPiece?_eq_some_iff {piece : List Mark} : ofPiece? piece = some word ↔
    ∃ first rest, piece = first :: rest ∧ Text.isBlank first.1 = false ∧
      word = ⟨.ofChar first.1, textOf (first :: rest),
        ⟨first.2, (rest.getLastD first).2 + 1⟩⟩ := by
  constructor
  · intro made
    cases piece with
    | nil => cases made
    | cons first rest =>
      rw [ofPiece?] at made
      by_cases blank : Text.isBlank first.1 = true
      · rw [if_pos blank] at made
        cases made
      · rw [if_neg blank] at made
        exact ⟨first, rest, rfl, Bool.eq_false_iff.mpr blank, (Option.some.inj made).symm⟩
  · rintro ⟨first, rest, rfl, visible, rfl⟩
    simp [ofPiece?, visible]

/-- A word is a piece that starts with a character that is not blank. -/
theorem mem_ofMarks_iff : word ∈ ofMarks marks ↔
    ∃ first rest, first :: rest ∈ pieces marks ∧ Text.isBlank first.1 = false ∧
      word = ⟨.ofChar first.1, textOf (first :: rest),
        ⟨first.2, (rest.getLastD first).2 + 1⟩⟩ := by
  rw [ofMarks, List.mem_filterMap]
  constructor
  · rintro ⟨piece, member, made⟩
    obtain ⟨first, rest, rfl, visible, same⟩ := ofPiece?_eq_some_iff.mp made
    exact ⟨first, rest, member, visible, same⟩
  · rintro ⟨first, rest, member, visible, same⟩
    exact ⟨first :: rest, member, ofPiece?_eq_some_iff.mpr ⟨first, rest, rfl, visible, same⟩⟩

/-- A character that is no part of a number and not blank is a word. -/
theorem mem_ofMarks_of_single {mark : Mark} (member : mark ∈ marks)
    (single : isNumeral mark.1 = false) (visible : Text.isBlank mark.1 = false) :
    ⟨.ofChar mark.1, String.singleton mark.1, ⟨mark.2, mark.2 + 1⟩⟩ ∈ ofMarks marks := by
  obtain ⟨piece, found, inside⟩ := exists_piece member
  rcases numeral_or_single found with numeral | ⟨other, rfl, -⟩
  · rw [numeral mark inside] at single
    cases single
  · obtain rfl := List.mem_singleton.mp inside
    exact mem_ofMarks_iff.mpr ⟨mark, [], found, visible, by rw [textOf_singleton]; rfl⟩

theorem Kind.ofChar_ne_endOfInput (c : Char) : ofChar c ≠ .endOfInput := by
  unfold ofChar ofSymbol?
  split
  · decide
  · split <;> decide

theorem kind_ne_of_mem_ofMarks (member : word ∈ ofMarks marks) : word.kind ≠ .endOfInput := by
  obtain ⟨first, rest, -, -, rfl⟩ := mem_ofMarks_iff.mp member
  exact Kind.ofChar_ne_endOfInput first.1

/-- A word is a number exactly if it is made of digits and points. -/
theorem kind_eq_number_iff (member : word ∈ ofMarks marks) :
    word.kind = .number ↔ ∀ c ∈ word.text.toList, isNumeral c = true := by
  obtain ⟨first, rest, found, -, rfl⟩ := mem_ofMarks_iff.mp member
  rw [toList_textOf, List.forall_mem_map]
  rcases numeral_or_single found with numeral | ⟨mark, same, single⟩
  · exact iff_of_true (Kind.ofChar_numeral (numeral first List.mem_cons_self)) numeral
  · obtain ⟨rfl, rfl⟩ := List.cons.inj same
    refine iff_of_false (Kind.ofChar_ne_number single) fun numeral => ?_
    rw [numeral first List.mem_cons_self] at single
    cases single

theorem isBlank_of_mem_text (member : word ∈ ofMarks marks) :
    ∀ c ∈ word.text.toList, Text.isBlank c = false := by
  obtain ⟨first, rest, found, visible, rfl⟩ := mem_ofMarks_iff.mp member
  rw [toList_textOf, List.forall_mem_map]
  rcases numeral_or_single found with numeral | ⟨mark, same, -⟩
  · exact fun mark inside => isBlank_of_isNumeral (numeral mark inside)
  · obtain ⟨rfl, rfl⟩ := List.cons.inj same
    simpa using visible

/-- A word starts with the character at its place, which tells its kind. -/
theorem getElem?_of_mem_ofMarks (member : word ∈ ofMarks (settings.marks text)) :
    ∃ c, text[word.span.start]? = some c ∧ word.kind = .ofChar c := by
  obtain ⟨first, rest, found, -, rfl⟩ := mem_ofMarks_iff.mp member
  have inside := mem_of_mem_pieces found List.mem_cons_self
  exact ⟨first.1, (Settings.getElem?_of_mem_marks inside).1, rfl⟩

theorem stop_le_of_mem_ofMarks (member : word ∈ ofMarks (settings.marks text)) :
    word.span.stop ≤ text.length := by
  obtain ⟨first, rest, found, -, rfl⟩ := mem_ofMarks_iff.mp member
  have inside := mem_of_mem_pieces found (List.getLastD_mem_cons (l := rest) (a := first))
  obtain ⟨below, -⟩ := List.getElem?_eq_some_iff.mp (Settings.getElem?_of_mem_marks inside).1
  exact below

section Rising

variable {first mark : Mark} {rest : List Mark}
  (rising : (first :: rest).Pairwise fun first second => first.2 < second.2)

include rising

theorem fst_le_of_mem (inside : mark ∈ first :: rest) : first.2 ≤ mark.2 := by
  rcases List.mem_cons.mp inside with rfl | member
  · exact Nat.le_refl _
  · exact Nat.le_of_lt (List.rel_of_pairwise_cons rising member)

theorem le_getLastD_of_mem (inside : mark ∈ first :: rest) :
    mark.2 ≤ (rest.getLastD first).2 := by
  obtain ⟨front, last, split⟩ : ∃ front last, first :: rest = front ++ [last] :=
    ⟨_, _, (List.dropLast_concat_getLast (List.cons_ne_nil first rest)).symm⟩
  have ended : rest.getLastD first = last := by
    rw [← List.getLast_eq_getLastD (List.cons_ne_nil first rest)]
    simp [split]
  rw [split] at rising inside
  rw [ended]
  rcases List.mem_append.mp inside with before | same
  · exact Nat.le_of_lt ((List.pairwise_append.mp rising).2.2 mark before last (by simp))
  · rw [List.mem_singleton.mp same]

end Rising

section Sorted

variable (sorted : marks.Pairwise fun first second => first.2 < second.2)

include sorted

/-- A word is not empty. -/
theorem span_lt_of_mem_ofMarks (member : word ∈ ofMarks marks) :
    word.span.start < word.span.stop := by
  rw [← flatten_pieces marks, List.pairwise_flatten] at sorted
  obtain ⟨first, rest, found, -, rfl⟩ := mem_ofMarks_iff.mp member
  exact Nat.lt_succ_of_le (le_getLastD_of_mem (sorted.1 _ found) List.mem_cons_self)

/-- A character that is not blank lies in a word. -/
theorem exists_covers {mark : Mark} (member : mark ∈ marks) (visible : Text.isBlank mark.1 = false) :
    ∃ word ∈ ofMarks marks, word.span.Covers mark.2 := by
  obtain ⟨piece, found, inside⟩ := exists_piece member
  rw [← flatten_pieces marks, List.pairwise_flatten] at sorted
  have rising := sorted.1 piece found
  cases piece with
  | nil => cases inside
  | cons first rest =>
    have seen : Text.isBlank first.1 = false := by
      rcases numeral_or_single found with numeral | ⟨other, same, -⟩
      · exact isBlank_of_isNumeral (numeral first List.mem_cons_self)
      · obtain ⟨rfl, rfl⟩ := List.cons.inj same
        rwa [← List.mem_singleton.mp inside]
    refine ⟨_, mem_ofMarks_iff.mpr ⟨first, rest, found, seen, rfl⟩, ?_, ?_⟩
    · exact fst_le_of_mem rising inside
    · exact Nat.lt_succ_of_le (le_getLastD_of_mem rising inside)

/-- Words come in the order of their places and do not overlap. -/
theorem pairwise_ofMarks :
    (ofMarks marks).Pairwise fun first second => first.span.stop ≤ second.span.start := by
  rw [← flatten_pieces marks, List.pairwise_flatten] at sorted
  refine List.Pairwise.filterMap _ ?_ sorted.2
  intro one other before word made next madeNext
  obtain ⟨first, rest, rfl, -, rfl⟩ := ofPiece?_eq_some_iff.mp made
  obtain ⟨start, others, rfl, -, rfl⟩ := ofPiece?_eq_some_iff.mp madeNext
  exact before _ List.getLastD_mem_cons start List.mem_cons_self

end Sorted

/-! ## Tokens of a text -/

section Scan

variable {source : String} {token : Token}

/-- The tokens of a text are its words and the mark for its end. -/
theorem mem_scan_iff : token ∈ scan settings source ↔
    token ∈ ofMarks (settings.marks source.toList) ∨ token = finish source.length := by
  rw [scan_eq, List.mem_append, List.mem_singleton]

/-- A word of a text starts at one of its characters. -/
theorem start_lt_of_mem_scan (member : token ∈ scan settings source)
    (plain : token.kind ≠ .endOfInput) : token.span.start < source.length := by
  rcases mem_scan_iff.mp member with word | rfl
  · obtain ⟨c, found, -⟩ := getElem?_of_mem_ofMarks word
    obtain ⟨below, -⟩ := List.getElem?_eq_some_iff.mp found
    rwa [String.length_toList] at below
  · exact absurd rfl plain

theorem start_le_of_mem_scan (member : token ∈ scan settings source) :
    token.span.start ≤ source.length := by
  rcases mem_scan_iff.mp member with word | rfl
  · exact Nat.le_of_lt (start_lt_of_mem_scan member (kind_ne_of_mem_ofMarks word))
  · exact Nat.le_refl _

theorem start_eq_of_mem_scan (member : token ∈ scan settings source)
    (ending : token.kind = .endOfInput) : token.span.start = source.length := by
  rcases mem_scan_iff.mp member with word | rfl
  · exact absurd ending (kind_ne_of_mem_ofMarks word)
  · rfl

/-- Tokens come in the order of the characters that they start with. -/
theorem pairwise_scan (settings : Settings) (source : String) :
    (scan settings source).Pairwise fun first second => first.span.start < second.span.start := by
  have sorted := settings.pairwise_marks source.toList
  rw [scan_eq, List.pairwise_append]
  refine ⟨?_, List.pairwise_singleton _ _, ?_⟩
  · refine (pairwise_ofMarks sorted).imp_of_mem ?_
    intro first second member _ before
    exact Nat.lt_of_lt_of_le (span_lt_of_mem_ofMarks sorted member) before
  · intro word member mark last
    obtain rfl := List.mem_singleton.mp last
    exact start_lt_of_mem_scan (mem_scan_iff.mpr (.inl member)) (kind_ne_of_mem_ofMarks member)

/-- Where a word starts stands a character that tells its kind. -/
theorem getElem?_start (member : token ∈ scan settings source)
    (plain : token.kind ≠ .endOfInput) :
    ∃ c, source.toList[token.span.start]? = some c ∧ token.kind = .ofChar c := by
  rcases mem_scan_iff.mp member with word | rfl
  · exact getElem?_of_mem_ofMarks word
  · exact absurd rfl plain

theorem getElem?_of_symbol (member : token ∈ scan settings source) {symbol : Char}
    (known : Kind.ofSymbol? symbol = some token.kind) :
    source.toList[token.span.start]? = some symbol := by
  obtain ⟨c, found, kind⟩ := getElem?_start member (Kind.ne_of_ofSymbol? known).2.2
  rw [kind] at known
  rw [found, Kind.eq_of_ofChar known]

/-- A word that is no number is the character at its place. -/
theorem exists_char_of_mem_scan (member : token ∈ scan settings source)
    (plain : token.kind ≠ .endOfInput) (notNumber : token.kind ≠ .number) :
    ∃ c, source.toList[token.span.start]? = some c ∧ token.text = String.singleton c ∧
      token.span.stop = token.span.start + 1 := by
  rcases mem_scan_iff.mp member with word | rfl
  case inr => exact absurd rfl plain
  obtain ⟨first, rest, piece, -, rfl⟩ := mem_ofMarks_iff.mp word
  rcases numeral_or_single piece with numeral | ⟨mark, same, -⟩
  · exact absurd (Kind.ofChar_numeral (numeral first List.mem_cons_self)) notNumber
  · obtain ⟨rfl, rfl⟩ := List.cons.inj same
    have found := Settings.getElem?_of_mem_marks (mem_of_mem_pieces piece List.mem_cons_self)
    exact ⟨first.1, found.1, textOf_singleton first, rfl⟩

/-- Tokens that start at the same place are one and the same, behind the same tokens. -/
theorem eq_of_start {before after others behind : List Token} {other : Token}
    (split : scan settings source = before ++ token :: after)
    (again : scan settings source = others ++ other :: behind)
    (same : token.span.start = other.span.start) : before = others ∧ token = other := by
  have sorted := pairwise_scan settings source
  rw [split, List.pairwise_append, List.pairwise_cons] at sorted
  have early : other ∉ before := fun member =>
    absurd same.symm (Nat.ne_of_lt (sorted.2.2 other member token List.mem_cons_self))
  have late : other ∉ after := fun member =>
    absurd same (Nat.ne_of_lt (sorted.2.1.1 other member))
  obtain ⟨front, here, -⟩ :=
    (List.append_cons_inj_of_notMem early late).mp (split.symm.trans again)
  exact ⟨front, here⟩

/-- A word stands where its first and its last character stand. -/
theorem ends_of_mem_scan (member : token ∈ scan settings source)
    (plain : token.kind ≠ .endOfInput) :
    source.toList[token.span.start]? = token.text.toList.head? ∧
      source.toList[token.span.stop - 1]? = token.text.toList.getLast? := by
  rcases mem_scan_iff.mp member with word | rfl
  case inr => exact absurd rfl plain
  obtain ⟨first, rest, found, -, rfl⟩ := mem_ofMarks_iff.mp word
  have head := Settings.getElem?_of_mem_marks (mem_of_mem_pieces found List.mem_cons_self)
  have last := Settings.getElem?_of_mem_marks (mem_of_mem_pieces found List.getLastD_mem_cons)
  rw [toList_textOf]
  refine ⟨head.1, last.1.trans ?_⟩
  rw [List.getLast?_map, List.getLast?_cons, ← List.getLastD_eq_getLast?]
  rfl

end Scan

end Token

end Calculator

import Calculator.Token.Scanner
import Mathlib.Data.List.DropRight
import Mathlib.Data.List.SplitBy

/-!
# The pieces of a text

What the settings drop is taken out of a text, and each character that is left keeps the position
where it stands. The rest falls apart between any two neighbours that are not both digits or
points, so that a piece is a run of digits and points, as long as it can be, or one other character.
Each piece that is not blank is a token. `Token.scan_eq` says that this is what a scanner reads,
although it takes nothing out and goes over its text only once.
-/

namespace Calculator

/-! ## Classes of characters -/

theorem isBlank_of_isNumeral {c : Char} (numeral : isNumeral c = true) : Text.isBlank c = false := by
  simp only [isNumeral, Bool.or_eq_true, beq_iff_eq] at numeral
  rcases numeral with digit | rfl
  · have range : 48 ≤ c.toNat ∧ c.toNat ≤ 57 := Char.isDigit_iff_toNat.mp digit
    simp only [Text.isBlank, Text.blankRanges, List.any_cons, List.any_nil, Bool.or_false,
      Bool.or_eq_false_iff, Bool.and_eq_false_iff, decide_eq_false_iff_not]
    omega
  · decide

theorem isNumeral_of_isBlank {c : Char} (blank : Text.isBlank c = true) : isNumeral c = false := by
  cases numeral : isNumeral c with
  | false => rfl
  | true => rw [isBlank_of_isNumeral numeral] at blank; cases blank

/-- A sign or a parenthesis is neither a digit nor a point, and it is not blank. -/
theorem single_of_ofSymbol? {c : Char} {kind : Token.Kind}
    (symbol : Token.Kind.ofSymbol? c = some kind) :
    isNumeral c = false ∧ Text.isBlank c = false := by
  unfold Token.Kind.ofSymbol? at symbol
  split at symbol <;> first | (constructor <;> decide) | cases symbol

theorem isUnrecognised_iff {c : Char} : isUnrecognised c = true ↔
    isNumeral c = false ∧ Text.isBlank c = false ∧ Token.Kind.ofSymbol? c = none := by
  simp [isUnrecognised, and_assoc]

namespace Token

/-- The kind of the tokens that start with a character. -/
def Kind.ofChar (c : Char) : Kind := if isNumeral c then .number else (ofSymbol? c).getD .unknown

theorem Kind.ofChar_numeral {c : Char} (numeral : isNumeral c = true) : ofChar c = .number :=
  if_pos numeral

theorem Kind.ofChar_symbol {c : Char} {kind : Kind} (symbol : ofSymbol? c = some kind) :
    ofChar c = kind := by
  rw [ofChar, (single_of_ofSymbol? symbol).1, symbol]
  rfl

theorem Kind.ofChar_unrecognised {c : Char} (unknown : isUnrecognised c = true) :
    ofChar c = .unknown := by
  obtain ⟨single, -, none⟩ := isUnrecognised_iff.mp unknown
  rw [ofChar, single, none]
  rfl

theorem Kind.ne_of_ofSymbol? {symbol : Char} {kind : Kind} (known : ofSymbol? symbol = some kind) :
    kind ≠ .number ∧ kind ≠ .unknown ∧ kind ≠ .endOfInput := by
  unfold ofSymbol? at known
  split at known <;> cases known <;> simp

theorem Kind.ofSymbol?_injective {c symbol : Char} {kind : Kind} (one : ofSymbol? c = some kind)
    (other : ofSymbol? symbol = some kind) : c = symbol := by
  unfold ofSymbol? at one other
  split at one <;> cases one <;> split at other <;> first | rfl | cases other

/-- The kind of a sign or a parenthesis tells its character. -/
theorem Kind.eq_of_ofChar {c symbol : Char} (known : ofSymbol? symbol = some (ofChar c)) :
    c = symbol := by
  obtain ⟨notNumber, notUnknown, -⟩ := ne_of_ofSymbol? known
  have single : isNumeral c = false :=
    Bool.eq_false_iff.mpr fun numeral => notNumber (ofChar_numeral numeral)
  cases own : ofSymbol? c with
  | none =>
    refine absurd ?_ notUnknown
    rw [ofChar, single, own]
    rfl
  | some kind =>
    rw [ofChar_symbol own] at known
    exact ofSymbol?_injective own known

end Token

/-! ## From marked characters to tokens -/

/-- A character and the position where it stands. -/
abbrev Mark := Char × Nat

/-- Whether a character is not dropped. -/
def Settings.keeps (settings : Settings) (c : Char) : Bool := settings.strict || !isUnrecognised c

/-- The characters of a text that are not dropped, where the text starts at a position. -/
def Settings.marks (settings : Settings) (text : List Char) (position : Nat := 0) : List Mark :=
  (text.zipIdx position).filter fun mark => settings.keeps mark.1

/-- The runs of digits and points, and every other character by itself. -/
def pieces (marks : List Mark) : List (List Mark) :=
  marks.splitBy fun first second => isNumeral first.1 && isNumeral second.1

namespace Token

/-- The text of marked characters. -/
def textOf (marks : List Mark) : String := String.ofList (marks.map Prod.fst)

@[simp] theorem toList_textOf (marks : List Mark) : (textOf marks).toList = marks.map Prod.fst :=
  String.toList_ofList

theorem textOf_append (first second : List Mark) :
    textOf (first ++ second) = textOf first ++ textOf second := by
  rw [textOf, List.map_append, String.ofList_append]
  rfl

theorem textOf_singleton (mark : Mark) : textOf [mark] = String.singleton mark.1 :=
  String.singleton_eq_ofList.symm

/-- The token that a piece is, unless it is blank. -/
def ofPiece? : List Mark → Option Token
  | [] => none
  | first :: rest =>
    if Text.isBlank first.1 then none
    else some ⟨.ofChar first.1, textOf (first :: rest), ⟨first.2, (rest.getLastD first).2 + 1⟩⟩

/-- The tokens of marked characters. -/
def ofMarks (marks : List Mark) : List Token := (pieces marks).filterMap ofPiece?

variable {first second run marks : List Mark} {mark : Mark}

@[simp] theorem ofMarks_nil : ofMarks [] = [] := rfl

/-- No token reaches over two neighbours that are not both digits or points. -/
theorem ofMarks_append (apart : ∀ last ∈ first.getLast?, ∀ next ∈ second.head?,
    (isNumeral last.1 && isNumeral next.1) = false) :
    ofMarks (first ++ second) = ofMarks first ++ ofMarks second := by
  rw [ofMarks, pieces, List.splitBy_append apart, List.filterMap_append]
  rfl

/-- A run of digits and points is one token. -/
theorem ofMarks_run (numeral : ∀ other ∈ mark :: run, isNumeral other.1 = true) :
    ofMarks (mark :: run) =
      [⟨.number, textOf (mark :: run), ⟨mark.2, (run.getLastD mark).2 + 1⟩⟩] := by
  have first : isNumeral mark.1 = true := numeral mark List.mem_cons_self
  have chain : (mark :: run).IsChain fun first second =>
      (isNumeral first.1 && isNumeral second.1) = true := by
    refine List.Pairwise.isChain (List.Pairwise.imp_of_mem ?_ (List.pairwise_of_forall fun _ _ => trivial))
    intro one other memberOne memberOther _
    rw [numeral one memberOne, numeral other memberOther]
    rfl
  rw [ofMarks, pieces, List.splitBy_of_isChain (List.cons_ne_nil mark run) chain]
  simp [ofPiece?, isBlank_of_isNumeral first, Kind.ofChar_numeral first]

/-- Where the last of neighbouring characters ends. -/
theorem snd_getLastD_zipIdx {text : List Char} {position : Nat}
    (split : text.zipIdx position = mark :: marks) :
    (marks.getLastD mark).2 + 1 = position + text.length := by
  have last := congrArg List.getLast? split
  rw [List.getLast?_zipIdx, List.getLast?_cons, ← List.getLastD_eq_getLast?] at last
  obtain ⟨c, ended, same⟩ := Option.map_eq_some_iff.mp last
  have nonempty : 0 < text.length := List.length_pos_of_mem (List.mem_of_getLast? ended)
  rw [← same]
  simp only
  omega

theorem ofMarks_singleton (visible : Text.isBlank mark.1 = false) :
    ofMarks [mark] = [⟨.ofChar mark.1, String.singleton mark.1, ⟨mark.2, mark.2 + 1⟩⟩] := by
  have split : pieces [mark] = [[mark]] := rfl
  simp [ofMarks, split, ofPiece?, visible, textOf_singleton]

theorem ofMarks_blank (blank : ∀ mark ∈ marks, Text.isBlank mark.1 = true) : ofMarks marks = [] := by
  refine List.filterMap_eq_nil_iff.mpr fun piece member => ?_
  cases piece with
  | nil => rfl
  | cons mark rest =>
    have inside : mark ∈ marks := by
      rw [← List.flatten_splitBy (fun first second => isNumeral first.1 && isNumeral second.1) marks]
      exact List.mem_flatten.mpr ⟨_, member, List.mem_cons_self⟩
    exact if_pos (blank mark inside)

/-- Where a text ends in a digit or a point, it ends in a run of them. -/
theorem exists_run_of_getLast? (last : marks.getLast? = some mark)
    (numeral : isNumeral mark.1 = true) :
    ∃ before start run, marks = before ++ start :: run ∧
      (∀ other ∈ start :: run, isNumeral other.1 = true) ∧
      ∀ other ∈ before.getLast?, isNumeral other.1 = false := by
  let digit : Mark → Bool := fun other => isNumeral other.1
  obtain ⟨front, rfl⟩ := List.getLast?_eq_some_iff.mp last
  have whole := List.rdropWhile_append_rtakeWhile (p := digit) (l := front ++ [mark])
  cases taken : (front ++ [mark]).rtakeWhile digit with
  | nil =>
    rw [List.rtakeWhile_concat_pos digit front mark numeral] at taken
    exact absurd taken (List.append_ne_nil_of_right_ne_nil _ (List.cons_ne_nil mark []))
  | cons start run =>
    refine ⟨(front ++ [mark]).rdropWhile digit, start, run, ?_, ?_, ?_⟩
    · rw [← taken]
      exact whole.symm
    · intro other member
      rw [← taken] at member
      exact List.mem_rtakeWhile_imp (p := digit) member
    · intro other member
      obtain ⟨nonempty, rfl⟩ := List.mem_getLast?_eq_getLast member
      exact Bool.eq_false_iff.mpr (List.rdropWhile_last_not digit _ nonempty)

/-- More digits and points after a digit or a point are added to the last token. -/
theorem ofMarks_join {more : List Mark} (last : marks.getLast? = some mark)
    (numeral : isNumeral mark.1 = true) (all : ∀ other ∈ more, isNumeral other.1 = true) :
    ∃ older previous, ofMarks marks = older ++ [previous] ∧ previous.kind = .number ∧
      ofMarks (marks ++ more) = older ++ [{ previous with
        text := previous.text ++ textOf more
        span := ⟨previous.span.start, (more.getLastD mark).2 + 1⟩ }] := by
  obtain ⟨before, start, run, rfl, digits, apart⟩ := exists_run_of_getLast? last numeral
  have split (others : List Mark) :
      ofMarks (before ++ start :: others) = ofMarks before ++ ofMarks (start :: others) := by
    refine ofMarks_append fun other member next head => ?_
    rw [apart other member]
    rfl
  have longer : ∀ other ∈ start :: (run ++ more), isNumeral other.1 = true := by
    rw [← List.cons_append]
    exact fun other member => (List.mem_append.mp member).elim (digits other) (all other)
  refine ⟨ofMarks before, _, by rw [split, ofMarks_run digits], rfl, ?_⟩
  rw [List.append_assoc, List.cons_append, split, ofMarks_run longer]
  have ended : mark = run.getLastD start := by
    rw [List.getLast?_append, List.getLast?_cons] at last
    simpa using last.symm
  have text : textOf (start :: (run ++ more)) = textOf (start :: run) ++ textOf more := by
    rw [← List.cons_append, textOf_append]
  simp [text, ended]

end Token

end Calculator

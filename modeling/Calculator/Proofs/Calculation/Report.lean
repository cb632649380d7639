import Calculator.Fault.Report
import Calculator.Proofs.Calculation.Blame
import Calculator.Proofs.Calculation.Spacing
import Calculator.Proofs.Text.Line
import Mathlib.Data.List.Basic

/-!
# A report points at its fault

The number of a line, the line without what is trimmed off its ends, the margins and the pointer are
worked out one by one. `rendering_of_calculate` says that they fit together: whatever a calculation
fails with, the tip of the pointer stands below the character to blame, or behind the line if the
fault is at the end of the text. A report is written as long as its pointer is not too wide
(`Fault.report?_eq`), and a fault can stand as far to the right as one likes (`calculate_spread`).
-/

namespace Calculator

namespace Text

/-! ## The line that is shown -/

theorem trimEnd_of_blank {text : List Char} (blank : ∀ c ∈ text, isBlank c = true) :
    trimEnd text = [] :=
  List.rdropWhile_eq_nil_iff.mpr blank

/-- Blank characters at the end make no difference. -/
theorem trimEnd_append_of_blank (text : List Char) {ending : List Char}
    (blank : ∀ c ∈ ending, isBlank c = true) : trimEnd (text ++ ending) = trimEnd text := by
  rw [trimEnd, List.reverse_append, List.dropWhile_append_of_pos, trimEnd]
  exact fun c member => blank c (List.mem_reverse.mp member)

/-- Breaks need not be trimmed before the blank characters are. -/
theorem trimEnd_dropWhile_trimBreaks (line : List Char) :
    trimEnd ((Line.trimBreaks line).dropWhile (· == ' ')) =
      trimEnd (line.dropWhile (· == ' ')) := by
  obtain ⟨ending, whole, breaks⟩ : ∃ ending, line = Line.trimBreaks line ++ ending ∧
      ∀ c ∈ ending, isBlank c = true := by
    refine ⟨_, List.rdropWhile_append_rtakeWhile.symm, fun c member => ?_⟩
    have feed := List.mem_rtakeWhile_imp member
    exact Line.isBlank_of_isBreak feed
  conv_rhs => rw [whole, List.dropWhile_append]
  by_cases none : (Line.trimBreaks line).dropWhile (· == ' ') = []
  · have blank : ∀ c ∈ ending.dropWhile (· == ' '), isBlank c = true :=
      fun c member => breaks c ((List.dropWhile_sublist _).subset member)
    rw [none, if_pos List.isEmpty_nil, trimEnd_of_blank blank]
    rfl
  · rw [if_neg (by simpa using none), trimEnd_append_of_blank _ breaks]

/-- The line around a position without the spaces at its start and the blank characters at its
end. -/
def excerpt (text : List Char) (position : Nat) : List Char :=
  trimEnd ((lineAround text position).dropWhile (· == ' '))

theorem feed_notMem_excerpt (text : List Char) (position : Nat) : '\n' ∉ excerpt text position := by
  intro member
  have inside := (List.rdropWhile_prefix isBlank _).subset member
  exact feed_notMem_lineAround text position ((List.dropWhile_sublist _).subset inside)

/-- How far into the line a place is when the spaces at its start are left out. -/
def Line.shownColumn (line : Line) : Nat :=
  line.column - (line.text.length - (line.text.dropWhile (· == ' ')).length)

theorem Line.shownColumn_le (line : Line) : line.shownColumn ≤ line.column := Nat.sub_le _ _

/-- A character that is not blank stands in the excerpt of its line where it is located. -/
theorem getElem?_excerpt {source : String} {position : Nat} {c : Char}
    (found : source.toList[position]? = some c) (visible : isBlank c = false) :
    (excerpt source.toList
      (Line.anchor source position))[(Line.locate source position).shownColumn]? = some c := by
  have notSpace : (c == ' ') = false := by
    refine Bool.eq_false_iff.mpr fun same => ?_
    rw [eq_of_beq same] at visible
    revert visible
    decide
  have there := getElem?_dropWhile (p := (· == ' ')) (Line.getElem?_locate found visible) notSpace
  rw [excerpt, ← trimEnd_dropWhile_trimBreaks, ← (Line.locate_anchor source position).2]
  exact getElem?_rdropWhile (p := isBlank) there visible

/-- The end of a text lies behind the excerpt of its line. -/
theorem length_excerpt_le {source : String} {position : Nat} (beyond : source.length ≤ position) :
    (excerpt source.toList (Line.anchor source position)).length ≤
      (Line.locate source position).shownColumn := by
  rw [excerpt, ← trimEnd_dropWhile_trimBreaks, ← (Line.locate_anchor source position).2]
  have whole : ((Line.locate source position).text.dropWhile (· == ' ')).length ≤
      (Line.locate source position).text.length := (List.dropWhile_sublist _).length_le
  have shorter := (List.rdropWhile_prefix isBlank
    ((Line.locate source position).text.dropWhile (· == ' '))).length_le
  rw [Line.shownColumn, Line.column_of_length_le beyond, Nat.sub_sub_self whole]
  exact shorter

end Text

/-! ## Margins and pointers -/

theorem notMem_repr {c : Char} (other : c.isDigit = false) (number : Nat) :
    c ∉ number.repr.toList := by
  intro member
  rw [Nat.toList_repr] at member
  rw [Nat.isDigit_of_mem_toDigits (by decide) (by decide) member] at other
  cases other

theorem toList_margin (number : Nat) :
    (margin number).toList = List.replicate (number.repr.length + 1) ' ' ++ ['|'] := by
  simp [margin]

theorem toList_pointer (column : Nat) :
    (pointer column).toList = List.replicate column '-' ++ ['^'] := by
  simp [pointer]

theorem notMem_replicate {c other : Char} (different : c ≠ other) (count : Nat) :
    c ∉ List.replicate count other :=
  fun member => different (List.eq_of_mem_replicate member)

/-- The rule of a margin stands behind a number and a space. -/
theorem idxOf_margin (number : Nat) (rest : List Char) :
    ((margin number).toList ++ rest).idxOf '|' = number.repr.length + 1 := by
  rw [toList_margin, List.append_assoc,
    List.idxOf_append_of_notMem (notMem_replicate (by decide) _), List.length_replicate]
  rfl

theorem idxOf_excerpt (number : Nat) (rest : List Char) :
    (number.repr.toList ++ (' ' :: '|' :: rest)).idxOf '|' = number.repr.length + 1 := by
  rw [List.idxOf_append_of_notMem (notMem_repr (by decide) number), String.length_toList]
  rfl

/-- The tip of a pointer stands behind the margin, a space and the dashes. -/
theorem idxOf_pointer (number column : Nat) :
    ((margin number).toList ++ (' ' :: (pointer column).toList)).idxOf '^' =
      number.repr.length + 3 + column := by
  have outside : '^' ∉ (margin number).toList := by
    rw [toList_margin, List.mem_append, not_or]
    exact ⟨notMem_replicate (by decide) _, by decide⟩
  rw [List.idxOf_append_of_notMem outside, toList_margin, toList_pointer,
    List.idxOf_cons_ne _ (by decide), List.idxOf_append_of_notMem (notMem_replicate (by decide) _),
    List.idxOf_cons_self]
  simp only [List.length_append, List.length_replicate, List.length_singleton]
  omega

/-- The characters of an excerpt stand behind the number of its line and its rule. -/
theorem getElem?_numbered (number index : Nat) (excerpt : List Char) :
    (number.repr.toList ++ (' ' :: '|' :: ' ' :: excerpt))[number.repr.length + 3 + index]? =
      excerpt[index]? := by
  rw [List.getElem?_append_right (by rw [String.length_toList]; omega), String.length_toList,
    Nat.add_assoc, Nat.add_sub_cancel_left, Nat.add_comm 3]
  rfl

theorem toList_numbered (number : Nat) (line : List Char) :
    (number.repr ++ " | " ++ String.ofList line).toList =
      number.repr.toList ++ (' ' :: '|' :: ' ' :: line) := by
  simp

theorem toList_pointed (number column : Nat) : (margin number ++ " " ++ pointer column).toList =
    (margin number).toList ++ (' ' :: (pointer column).toList) := by
  simp

/-! ## Reports -/

namespace Fault

/-- What the four lines of a report show: what is wrong, an empty margin, the numbered line of the
source, and a pointer below the character to blame. -/
structure Rendering (fault : Fault) (source headline gutter shown arrow : String) : Prop where
  unbroken : ∀ line ∈ [headline, gutter, shown, arrow], '\n' ∉ line.toList
  headline_eq : headline = "Error: " ++ fault.message
  gutter_eq : ∃ width, gutter = String.ofList (List.replicate width ' ') ++ "|"
  shown_eq : shown =
    (1 + (source.toList.take (Text.Line.anchor source fault.position)).count '\n').repr ++ " | " ++
      String.ofList (Text.excerpt source.toList (Text.Line.anchor source fault.position))
  arrow_eq : ∃ width, arrow = gutter ++ " " ++ String.ofList (List.replicate width '-') ++ "^"
  /-- The rules of the three margins stand below each other. -/
  aligned : shown.toList.idxOf '|' = gutter.toList.idxOf '|' ∧
    arrow.toList.idxOf '|' = gutter.toList.idxOf '|'
  /-- The tip of the pointer stands below the character at the position. -/
  below : ∀ c, source.toList[fault.position]? = some c →
    shown.toList[arrow.toList.idxOf '^']? = some c
  /-- At the end of the source the tip stands behind all that is shown. -/
  behind : fault.position = source.length → shown.length ≤ arrow.toList.idxOf '^'

variable {fault : Fault} {source : String}

/-- Without a line feed in what is to blame there is none in the message. -/
theorem feed_notMem_message
    (single : ∀ details, fault.cause.details? = some details → '\n' ∉ details.toList) :
    '\n' ∉ fault.message.toList := by
  have summary : '\n' ∉ fault.cause.summary.toList := by
    unfold Cause.summary
    split <;> decide
  have place : '\n' ∉ fault.position.repr.toList := notMem_repr (by decide) fault.position
  unfold message
  cases found : fault.cause.details? with
  | none =>
    simp only [String.toList_append, List.mem_append, not_or]
    exact ⟨⟨summary, by decide⟩, place⟩
  | some details =>
    simp only [String.toList_append, List.mem_append, not_or]
    exact ⟨⟨⟨⟨summary, by decide⟩, place⟩, by decide⟩, single details found⟩

theorem feed_notMem_margin (number : Nat) : '\n' ∉ (margin number).toList := by
  rw [toList_margin, List.mem_append, not_or]
  exact ⟨notMem_replicate (by decide) _, by decide⟩

/-- A report is written if its pointer is, that is, if the column that it shows leaves room for the
tip. -/
theorem report?_eq (fault : Fault) (source : String) :
    fault.report? source =
      if (Text.Line.locate source fault.position).shownColumn < greatestWidth then some (
        "Error: " ++ fault.message ++ "\n" ++
        margin (Text.Line.locate source fault.position).number ++ "\n" ++
        ((Text.Line.locate source fault.position).number.repr ++ " | " ++
          String.ofList (Text.excerpt source.toList (Text.Line.anchor source fault.position))) ++
            "\n" ++
        (margin (Text.Line.locate source fault.position).number ++ " " ++
          pointer (Text.Line.locate source fault.position).shownColumn) ++ "\n")
      else none := by
  rw [Text.excerpt, ← Text.trimEnd_dropWhile_trimBreaks,
    ← (Text.Line.locate_anchor source fault.position).2]
  unfold report? pointer? Text.Line.shownColumn
  simp only [String.append_assoc, Nat.lt_iff_add_one_le]
  split <;> rfl

theorem report?_eq_none_iff {fault : Fault} {source : String} : fault.report? source = none ↔
    greatestWidth ≤ (Text.Line.locate source fault.position).shownColumn := by
  rw [report?_eq, ← Nat.not_lt]
  split <;> simp_all

/-- A fault at a character that is not blank, or at the end of the source, is pointed at. -/
theorem exists_rendering
    (visible : ∀ c, source.toList[fault.position]? = some c → Text.isBlank c = false)
    (single : ∀ details, fault.cause.details? = some details → '\n' ∉ details.toList) :
    ∃ headline gutter shown arrow,
      (fault.report? source =
        if (Text.Line.locate source fault.position).shownColumn < greatestWidth then
          some (headline ++ "\n" ++ gutter ++ "\n" ++ shown ++ "\n" ++ arrow ++ "\n")
        else none) ∧
      fault.Rendering source headline gutter shown arrow := by
  refine ⟨_, _, _, _, fault.report?_eq source, ?_⟩
  have numbered := (Text.Line.locate_anchor source fault.position).1
  constructor
  case unbroken =>
    simp only [List.forall_mem_cons, List.not_mem_nil, false_imp_iff, implies_true, and_true]
    refine ⟨?_, feed_notMem_margin _, ?_, ?_⟩
    · rw [String.toList_append, List.mem_append, not_or]
      exact ⟨by decide, feed_notMem_message single⟩
    · rw [toList_numbered, List.mem_append, not_or]
      refine ⟨notMem_repr (by decide) _, ?_⟩
      simpa using Text.feed_notMem_excerpt _ _
    · rw [toList_pointed, List.mem_append, List.mem_cons, toList_pointer, List.mem_append, not_or,
        not_or, not_or]
      exact ⟨feed_notMem_margin _, by decide, notMem_replicate (by decide) _, by decide⟩
  case headline_eq => rfl
  case gutter_eq => exact ⟨_, rfl⟩
  case shown_eq => rw [numbered]
  case arrow_eq => exact ⟨_, (String.append_assoc).symm⟩
  case aligned =>
    have rule := idxOf_margin (Text.Line.locate source fault.position).number []
    rw [List.append_nil] at rule
    rw [rule, toList_numbered, toList_pointed]
    exact ⟨idxOf_excerpt _ _, idxOf_margin _ _⟩
  case below =>
    intro c found
    rw [toList_numbered, toList_pointed, idxOf_pointer, getElem?_numbered]
    exact Text.getElem?_excerpt found (visible c found)
  case behind =>
    intro ended
    have within := Text.length_excerpt_le (Nat.le_of_eq ended.symm)
    rw [← String.length_toList, toList_numbered, toList_pointed, idxOf_pointer, List.length_append,
      String.length_toList]
    simp only [List.length_cons]
    omega

end Fault

/-! ## Faults of calculations -/

variable {settings : Settings} {source : String}

/-- No word of a text has a blank character. -/
theorem Token.isBlank_of_mem_scan {token : Token} (member : token ∈ scan settings source)
    (plain : token.kind ≠ .endOfInput) : ∀ c ∈ token.text.toList, Text.isBlank c = false := by
  rcases mem_scan_iff.mp member with word | rfl
  · exact isBlank_of_mem_text word
  · exact absurd rfl plain

theorem Token.isBlank_start {token : Token} {c : Char} (member : token ∈ scan settings source)
    (found : source.toList[token.span.start]? = some c) : Text.isBlank c = false := by
  have plain : token.kind ≠ .endOfInput := by
    intro ending
    obtain ⟨below, -⟩ := List.getElem?_eq_some_iff.mp found
    rw [String.length_toList] at below
    exact absurd (start_eq_of_mem_scan member ending) (Nat.ne_of_lt below)
  rw [(ends_of_mem_scan member plain).1] at found
  exact isBlank_of_mem_scan member plain c (List.mem_of_mem_head? found)

theorem Token.WordAt.feed_notMem {position : Nat} {text : String}
    (word : WordAt settings source position text) : '\n' ∉ text.toList := by
  obtain ⟨token, member, plain, -, rfl⟩ := word
  intro inside
  have visible := isBlank_of_mem_scan member plain '\n' inside
  revert visible
  decide

theorem Fault.Explains.feed_notMem {fault : Fault} (explains : fault.Explains settings source)
    {details : String} (found : fault.cause.details? = some details) : '\n' ∉ details.toList := by
  obtain ⟨cause, position⟩ := fault
  cases cause with
  | invalidExpression token =>
    cases token with
    | none => cases found
    | some text =>
      cases found
      exact explains.2.feed_notMem
  | invalidNumber text =>
    cases found
    exact explains.2.1.feed_notMem
  | invalidOperator symbol => exact explains.elim
  | emptyExpression | unmatchedParentheses | divisionByZero | invalidPower | nestingTooDeep =>
    cases found

/-- Whatever a calculation fails with is reported in four lines, and the pointer in the last one
shows where the fault is. The report is written as long as the column that it shows leaves room for
the tip of the pointer, as it does if the column in the source does. -/
theorem rendering_of_calculate {fault : Fault} (failed : calculate settings source = .error fault) :
    ∃ headline gutter shown arrow,
      let report := headline ++ "\n" ++ gutter ++ "\n" ++ shown ++ "\n" ++ arrow ++ "\n"
      let line := Text.Line.locate source fault.position
      (line.column < greatestWidth → fault.report? source = some report) ∧
      (fault.report? source = if line.shownColumn < greatestWidth then some report else none) ∧
      fault.Rendering source headline gutter shown arrow := by
  have blames := blames_of_calculate failed
  have explains := blames.explains
  obtain ⟨before, token, after, split, position, -⟩ := blames
  have member : token ∈ Token.scan settings source := by
    rw [split]
    exact List.mem_append_right _ List.mem_cons_self
  have visible : ∀ c, source.toList[fault.position]? = some c → Text.isBlank c = false := by
    intro c found
    rw [position] at found
    exact Token.isBlank_start member found
  obtain ⟨headline, gutter, shown, arrow, written, rendering⟩ :=
    Fault.exists_rendering visible fun details found => explains.feed_notMem found
  refine ⟨headline, gutter, shown, arrow, fun narrow => ?_, written, rendering⟩
  rw [written, if_pos (Nat.lt_of_le_of_lt (Text.Line.shownColumn_le _) narrow)]

/-- On the second line of a text, between leading spaces and a carriage return. -/
theorem rendering_of_second_line :
    calculate {} "1 +\n  \t2)é\r\n" = .error ⟨.invalidExpression (some ")"), 8⟩ ∧
    ∃ headline gutter shown arrow,
      Fault.report? ⟨.invalidExpression (some ")"), 8⟩ "1 +\n  \t2)é\r\n" =
        some (headline ++ "\n" ++ gutter ++ "\n" ++ shown ++ "\n" ++ arrow ++ "\n") ∧
      Fault.Rendering ⟨.invalidExpression (some ")"), 8⟩ "1 +\n  \t2)é\r\n"
        headline gutter shown arrow := by
  have failed : calculate {} "1 +\n  \t2)é\r\n" = .error ⟨.invalidExpression (some ")"), 8⟩ := by
    decide +kernel
  obtain ⟨headline, gutter, shown, arrow, written, -, rendering⟩ := rendering_of_calculate failed
  exact ⟨failed, headline, gutter, shown, arrow, written (by decide +kernel), rendering⟩

/-! ## Faults far to the right -/

namespace Text

/-- Two parentheses with spaces between them. -/
def spread (width : Nat) : String := "(" ++ String.ofList (List.replicate width ' ') ++ "("

theorem toList_spread (width : Nat) :
    (spread width).toList = '(' :: List.replicate width ' ' ++ ['('] := by
  simp [spread]

theorem length_spread (width : Nat) : (spread width).length = width + 2 := by
  simp [← String.length_toList, toList_spread]

theorem feed_notMem_spread (width : Nat) : '\n' ∉ (spread width).toList := by
  rw [toList_spread, List.mem_append, List.mem_cons, not_or, not_or]
  exact ⟨⟨by decide, notMem_replicate (by decide) width⟩, by decide⟩

theorem trimEnd_spread (width : Nat) : trimEnd (spread width).toList = (spread width).toList := by
  rw [toList_spread]
  exact trimEnd_append_singleton (by decide)

theorem trim_spread (width : Nat) : trim (spread width).toList = (spread width).toList := by
  have start : trimStart (spread width).toList = (spread width).toList := by
    rw [toList_spread]
    rfl
  rw [trim, start, trimEnd_spread]

/-- All of the parentheses and the spaces is shown. -/
theorem excerpt_spread (width position : Nat) :
    excerpt (spread width).toList position = (spread width).toList := by
  have whole : (spread width).toList.dropWhile (· == ' ') = (spread width).toList := by
    rw [toList_spread]
    rfl
  rw [excerpt, lineAround_of_plain (feed_notMem_spread width), whole, trimEnd_spread]

end Text

/-- Parentheses that nothing follows are an expression that ends early. -/
theorem calculate_spread (width : Nat) :
    calculate {} (Text.spread width) = .error ⟨.invalidExpression none, width + 2⟩ := by
  have white : ∀ c ∈ (String.ofList (List.replicate width ' ')).toList, Text.isBlank c = true := by
    intro c member
    rw [String.toList_ofList] at member
    rw [List.eq_of_mem_replicate member]
    decide
  have apart : ∀ last ∈ (Settings.kept {} "(").getLast?, ∀ next ∈ (Settings.kept {} "(").head?,
      (isNumeral last && isNumeral next) = false := by
    intro last ended next _
    obtain rfl : '(' = last := Option.some.inj ended
    rfl
  -- the spaces move the end of the text, which is where `((` goes wrong
  have related := Token.moves_scan_widen white apart
  have same : ({} : Settings) = Settings.withStrict {} true := rfl
  rw [same] at related
  have moved := calculate_of_moves related
  have narrow : calculate (Settings.withStrict {} true) ("(" ++ "(") =
      .error ⟨.invalidExpression none, 2⟩ := by decide +kernel
  have place : Text.widen 1 (String.ofList (List.replicate width ' ')).length 2 = width + 2 := by
    rw [Text.widen, if_neg (by decide), String.length_ofList, List.length_replicate, Nat.add_comm]
  rw [narrow] at moved
  rw [← place]
  exact moved

/-- The end is shown behind all of it, however far to the right that is. -/
theorem Text.le_shownColumn_spread (width : Nat) :
    width + 2 ≤ (Line.locate (spread width) (width + 2)).shownColumn := by
  have behind := length_excerpt_le (Nat.le_of_eq (length_spread width))
  rwa [excerpt_spread, String.length_toList, length_spread] at behind

end Calculator

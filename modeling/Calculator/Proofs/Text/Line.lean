import Calculator.Text.Blank
import Calculator.Text.Line
import Mathlib.Data.List.DropRight

/-!
# The line around a position

The line that holds a position is what stands around it, from the line feed before it to the line
feed after it. `Line.locateIn` goes through the stretches of a text instead, and carries along how
many there were and how much of the way is left; `Line.locateIn_pieces` says that it comes to the
same line, whose number counts the line feeds before the position. A position beyond the text is
looked up at its last character.
-/

namespace Calculator.Text

/-! ## Trimming and places -/

section Trim

variable {α : Type} {p : α → Bool} {items : List α} {index : Nat} {item : α}

/-- What stands at an index is trimmed off the end or stays where it is. -/
theorem getElem?_rdropWhile_or (found : items[index]? = some item) :
    (items.rdropWhile p)[index]? = some item ∨
      p item = true ∧ (items.rdropWhile p).length ≤ index := by
  have whole : items.rdropWhile p ++ items.rtakeWhile p = items := List.rdropWhile_append_rtakeWhile
  by_cases below : index < (items.rdropWhile p).length
  case pos =>
    rw [← whole, List.getElem?_append_left below] at found
    exact .inl found
  rw [← whole, List.getElem?_append_right (Nat.le_of_not_lt below)] at found
  exact .inr ⟨List.mem_rtakeWhile_imp (List.mem_of_getElem? found), Nat.le_of_not_lt below⟩

/-- What is not trimmed off the end stays where it is. -/
theorem getElem?_rdropWhile (found : items[index]? = some item) (kept : p item = false) :
    (items.rdropWhile p)[index]? = some item := by
  refine (getElem?_rdropWhile_or found).resolve_right fun ⟨trimmed, _⟩ => ?_
  rw [trimmed] at kept
  cases kept

/-- What is not trimmed off the start moves to the left by what is. -/
theorem getElem?_dropWhile (found : items[index]? = some item) (kept : p item = false) :
    (items.dropWhile p)[index - (items.length - (items.dropWhile p).length)]? = some item := by
  have whole : items.takeWhile p ++ items.dropWhile p = items := List.takeWhile_append_dropWhile
  have removed : items.length - (items.dropWhile p).length = (items.takeWhile p).length := by
    have lengths := congrArg List.length whole
    rw [List.length_append] at lengths
    omega
  rw [removed]
  by_cases below : index < (items.takeWhile p).length
  case neg => rwa [← List.getElem?_append_right (Nat.le_of_not_lt below), whole]
  rw [← whole, List.getElem?_append_left below] at found
  rw [List.mem_takeWhile_imp (List.mem_of_getElem? found)] at kept
  cases kept

/-- What is taken ends before the first item that is not wanted. -/
theorem takeWhile_append_cons (unwanted : p item = false) (before after : List α) :
    (before ++ item :: after).takeWhile p = before.takeWhile p := by
  induction before with
  | nil => rw [List.nil_append, List.takeWhile_cons, unwanted]; rfl
  | cons first before ih => simp only [List.cons_append, List.takeWhile_cons, ih]

/-- A run ends at the first item that is not wanted. -/
theorem takeWhile_append_of_stop {run rest : List α} (wanted : ∀ item ∈ run, p item = true)
    (stop : ∀ item ∈ rest.head?, p item = false) : (run ++ rest).takeWhile p = run := by
  rw [List.takeWhile_append_of_pos wanted]
  cases rest with
  | nil => exact List.append_nil run
  | cons item rest => rw [List.takeWhile_cons, stop item rfl]; exact List.append_nil run

/-- Runs that are followed by what is not wanted can be told from what follows. -/
theorem append_inj_of_stop {first second rest others : List α}
    (same : first ++ rest = second ++ others) (wanted : ∀ item ∈ first, p item = true)
    (wantedSecond : ∀ item ∈ second, p item = true) (stop : ∀ item ∈ rest.head?, p item = false)
    (stopOthers : ∀ item ∈ others.head?, p item = false) : first = second ∧ rest = others := by
  have equal : first = second := by
    rw [← takeWhile_append_of_stop wanted stop, same,
      takeWhile_append_of_stop wantedSecond stopOthers]
  rw [equal] at same
  exact ⟨equal, List.append_cancel_left same⟩

end Trim

/-! ## Lines -/

/-- A list is a line without a feed, or such a line, a feed and a list. -/
@[elab_as_elim]
theorem lineInduction {α : Type} (feed : α) {motive : List α → Prop}
    (last : ∀ line, feed ∉ line → motive line)
    (more : ∀ line rest, feed ∉ line → motive rest → motive (line ++ feed :: rest))
    (items : List α) : motive items := by
  induction size : items.length using Nat.strongRecOn generalizing items with
  | ind length ih =>
    by_cases member : feed ∈ items
    case neg => exact last items member
    obtain ⟨line, rest, rfl, plain⟩ := List.eq_append_cons_of_mem member
    refine more line rest plain (ih rest.length ?_ rest rfl)
    rw [List.length_append, List.length_cons] at size
    omega

/-- What stands before a position in its line. -/
def leading (text : List Char) (position : Nat) : List Char :=
  (text.take position).rtakeWhile (· != '\n')

/-- What stands before and after a position in its line, without the line feed at its end. -/
def lineAround (text : List Char) (position : Nat) : List Char :=
  leading text position ++ (text.drop position).takeWhile (· != '\n')

theorem feed_notMem_lineAround (text : List Char) (position : Nat) :
    '\n' ∉ lineAround text position := by
  intro member
  rcases List.mem_append.mp member with before | after
  · have other := List.mem_rtakeWhile_imp before
    cases other
  · have other := List.mem_takeWhile_imp after
    cases other

variable {line rest text : List Char} {position : Nat}

theorem leading_of_plain (plain : '\n' ∉ text.take position) :
    leading text position = text.take position := by
  rw [leading, List.rtakeWhile_eq_self_iff]
  intro c member
  simpa using fun same : c = '\n' => plain (same ▸ member)

theorem take_append_feed (line rest : List Char) (position : Nat) :
    (line ++ '\n' :: rest).take (line.length + 1 + position) =
      line ++ '\n' :: rest.take position := by
  rw [Nat.add_assoc, List.take_length_add_append, Nat.add_comm 1, List.take_succ_cons]

/-- A line feed cuts off what is before it. -/
theorem leading_append_feed (line rest : List Char) (position : Nat) :
    leading (line ++ '\n' :: rest) (line.length + 1 + position) = leading rest position := by
  rw [leading, take_append_feed, leading]
  rw [List.rtakeWhile, List.rtakeWhile, List.reverse_append, List.reverse_cons, List.append_assoc]
  exact congrArg List.reverse (takeWhile_append_cons rfl _ _)

theorem lineAround_append_feed (line rest : List Char) (position : Nat) :
    lineAround (line ++ '\n' :: rest) (line.length + 1 + position) = lineAround rest position := by
  have dropped : (line ++ '\n' :: rest).drop (line.length + 1 + position) = rest.drop position := by
    rw [Nat.add_assoc, List.drop_length_add_append, Nat.add_comm 1, List.drop_succ_cons]
  rw [lineAround, leading_append_feed, dropped, lineAround]

theorem takeWhile_of_plain (plain : '\n' ∉ line) : line.takeWhile (· != '\n') = line := by
  rw [List.takeWhile_eq_self_iff]
  intro c member
  simpa using fun same : c = '\n' => plain (same ▸ member)

/-- A line without a line feed lies around each of its positions. -/
theorem lineAround_of_plain (plain : '\n' ∉ line) (position : Nat) :
    lineAround line position = line := by
  rw [lineAround, leading_of_plain fun member => plain (List.mem_of_mem_take member),
    takeWhile_of_plain fun member => plain (List.mem_of_mem_drop member), List.take_append_drop]

/-- A line lies around the line feed at its end, too. -/
theorem lineAround_of_le (plain : '\n' ∉ line) (within : position ≤ line.length)
    (rest : List Char) : lineAround (line ++ '\n' :: rest) position = line := by
  have taken : (line ++ '\n' :: rest).take position = line.take position :=
    List.take_append_of_le_length within
  rw [lineAround, leading_of_plain, taken, List.drop_append_of_le_length within,
    takeWhile_append_cons rfl,
    takeWhile_of_plain fun member => plain (List.mem_of_mem_drop member), List.take_append_drop]
  rw [taken]
  exact fun member => plain (List.mem_of_mem_take member)

/-- In its line a character stands behind what leads up to it. -/
theorem getElem?_lineAround {c : Char} (found : text[position]? = some c) (inside : c ≠ '\n') :
    (lineAround text position)[(leading text position).length]? = some c := by
  obtain ⟨below, rfl⟩ := List.getElem?_eq_some_iff.mp found
  have wanted : (text[position] != '\n') = true := by simpa using inside
  rw [lineAround, List.getElem?_append_right (Nat.le_refl _), Nat.sub_self,
    List.drop_eq_getElem_cons below, List.takeWhile_cons, if_pos wanted]
  rfl

namespace Line

theorem pieces_of_plain (plain : '\n' ∉ line) (some : line ≠ []) : pieces line = [line] := by
  induction line with
  | nil => exact absurd rfl some
  | cons c line ih =>
    rw [List.mem_cons, not_or] at plain
    rw [pieces, if_neg fun same => plain.1 same.symm]
    cases line with
    | nil => rfl
    | cons next line => rw [ih plain.2 (List.cons_ne_nil next line)]

theorem pieces_append_feed (plain : '\n' ∉ line) (rest : List Char) :
    pieces (line ++ '\n' :: rest) = (line ++ ['\n']) :: pieces rest := by
  induction line with
  | nil => rfl
  | cons c line ih =>
    rw [List.mem_cons, not_or] at plain
    rw [List.cons_append, pieces, if_neg fun same => plain.1 same.symm, ih plain.2]
    rfl

theorem pieces_eq_nil_iff : pieces text = [] ↔ text = [] := by
  constructor
  · intro none
    rw [← flatten_pieces text, none]
    rfl
  · rintro rfl
    rfl

theorem trimBreaks_append_feed (line : List Char) :
    trimBreaks (line ++ ['\n']) = trimBreaks line := by
  simp [trimBreaks]

variable {number : Nat} {piece : List Char} {others : List (List Char)}

theorem locateIn_here (here : position < piece.length ∨ others = []) :
    locateIn number position (piece :: others) =
      ⟨number, trimBreaks piece, min position (trimBreaks piece).length⟩ :=
  if_pos here

theorem locateIn_further (behind : piece.length ≤ position) (more : others ≠ []) :
    locateIn number position (piece :: others) =
      locateIn (number + 1) (position - piece.length) others :=
  if_neg (not_or.mpr ⟨Nat.not_lt.mpr behind, more⟩)

/-- The line that holds a position of a text. -/
theorem locateIn_pieces (number : Nat) (inside : position < text.length) :
    locateIn number position (pieces text) =
      ⟨number + (text.take position).count '\n', trimBreaks (lineAround text position),
        min (leading text position).length (trimBreaks (lineAround text position)).length⟩ := by
  induction text using lineInduction '\n' generalizing number position with
  | last line plain =>
    have some : line ≠ [] := List.ne_nil_of_length_pos (Nat.zero_lt_of_lt inside)
    have front : '\n' ∉ line.take position := fun member => plain (List.mem_of_mem_take member)
    rw [pieces_of_plain plain some, locateIn_here (.inl inside), lineAround_of_plain plain,
      leading_of_plain front, List.count_eq_zero.mpr front, List.length_take_of_le inside.le,
      Nat.add_zero]
  | more line rest plain ih =>
    have long : (line ++ ['\n']).length = line.length + 1 := List.length_append
    rw [pieces_append_feed plain]
    by_cases within : position ≤ line.length
    · have taken : (line ++ '\n' :: rest).take position = line.take position :=
        List.take_append_of_le_length within
      have front : '\n' ∉ (line ++ '\n' :: rest).take position := by
        rw [taken]
        exact fun member => plain (List.mem_of_mem_take member)
      rw [locateIn_here (.inl (by omega)), lineAround_of_le plain within, leading_of_plain front,
        List.count_eq_zero.mpr front, trimBreaks_append_feed, List.length_take_of_le inside.le,
        Nat.add_zero]
    · obtain ⟨further, rfl⟩ : ∃ further, position = line.length + 1 + further :=
        ⟨position - (line.length + 1), by omega⟩
      rw [List.length_append, List.length_cons] at inside
      have behind : further < rest.length := by omega
      have more : pieces rest ≠ [] := fun none => by
        rw [pieces_eq_nil_iff.mp none] at behind
        exact Nat.not_lt_zero further behind
      have way : line.length + 1 + further - (line ++ ['\n']).length = further := by omega
      rw [locateIn_further (by omega) more, way, ih (number + 1) behind, lineAround_append_feed,
        leading_append_feed, take_append_feed, List.count_append, List.count_cons_self,
        List.count_eq_zero.mpr plain]
      congr 1
      omega

theorem length_trimBreaks_le (piece : List Char) : (trimBreaks piece).length ≤ piece.length :=
  (List.rdropWhile_prefix (fun c => c == '\n' || c == '\r') piece).length_le

/-- A position beyond a text is at the end of the line that holds its last character. -/
theorem locateIn_beyond (number : Nat) (some : text ≠ []) (beyond : text.length ≤ position) :
    locateIn number position (pieces text) =
      ⟨(locateIn number (text.length - 1) (pieces text)).number,
        (locateIn number (text.length - 1) (pieces text)).text,
        (locateIn number (text.length - 1) (pieces text)).text.length⟩ := by
  induction text using lineInduction '\n' generalizing number position with
  | last line plain =>
    have shorter := length_trimBreaks_le line
    rw [pieces_of_plain plain some, locateIn_here (.inr rfl), locateIn_here (.inr rfl),
      Nat.min_eq_right (by omega)]
  | more line rest plain ih =>
    have long : (line ++ ['\n']).length = line.length + 1 := List.length_append
    rw [List.length_append, List.length_cons] at beyond ⊢
    rw [pieces_append_feed plain]
    by_cases none : rest = []
    · have shorter := length_trimBreaks_le (line ++ ['\n'])
      have last : pieces rest = [] := pieces_eq_nil_iff.mpr none
      rw [locateIn_here (.inr last), locateIn_here (.inr last), Nat.min_eq_right (by omega)]
    · have more : pieces rest ≠ [] := fun empty => none (pieces_eq_nil_iff.mp empty)
      have nonempty := List.length_pos_iff.mpr none
      have way : line.length + (rest.length + 1) - 1 - (line ++ ['\n']).length =
          rest.length - 1 := by omega
      rw [locateIn_further (by omega) more, locateIn_further (by omega) more, way]
      exact ih (number + 1) none (by omega)

/-! ## Lookup in a text -/

variable {source : String} {c : Char}

/-- The character whose line is found for a position: the one that stands there, or the last one for
a position beyond the text. -/
def anchor (source : String) (position : Nat) : Nat := min position (source.length - 1)

theorem anchor_of_lt (inside : position < source.length) : anchor source position = position :=
  Nat.min_eq_left (Nat.le_sub_one_of_lt inside)

theorem locate_of_empty (empty : source.toList = []) (position : Nat) :
    locate source position = ⟨1, [], 0⟩ := by
  rw [locate, empty]
  rfl

theorem locate_of_lt (inside : position < source.length) : locate source position =
    ⟨1 + (source.toList.take position).count '\n',
      trimBreaks (lineAround source.toList position),
      min (leading source.toList position).length
        (trimBreaks (lineAround source.toList position)).length⟩ := by
  rw [← String.length_toList] at inside
  exact locateIn_pieces 1 inside

/-- A position beyond a text is looked up at the last character. -/
theorem locate_of_length_le (some : source.toList ≠ []) (beyond : source.length ≤ position) :
    locate source position =
      ⟨(locate source (source.length - 1)).number, (locate source (source.length - 1)).text,
        (locate source (source.length - 1)).text.length⟩ := by
  rw [← String.length_toList] at beyond ⊢
  exact locateIn_beyond 1 some beyond

theorem column_of_length_le (beyond : source.length ≤ position) :
    (locate source position).column = (locate source position).text.length := by
  by_cases empty : source.toList = []
  · rw [locate_of_empty empty]
    rfl
  · rw [locate_of_length_le empty beyond]

/-- The line of the anchor is found. -/
theorem locate_anchor (source : String) (position : Nat) :
    (locate source position).number =
        1 + (source.toList.take (anchor source position)).count '\n' ∧
      (locate source position).text =
        trimBreaks (lineAround source.toList (anchor source position)) := by
  by_cases inside : position < source.length
  case pos =>
    rw [locate_of_lt inside, anchor_of_lt inside]
    exact ⟨rfl, rfl⟩
  by_cases empty : source.toList = []
  · rw [locate_of_empty empty, empty, List.take_nil, lineAround_of_plain List.not_mem_nil]
    exact ⟨rfl, rfl⟩
  · have nonempty := List.length_pos_iff.mpr empty
    rw [String.length_toList] at nonempty
    have last : anchor source position = source.length - 1 := Nat.min_eq_right (by omega)
    rw [locate_of_length_le empty (Nat.le_of_not_lt inside), last,
      locate_of_lt (Nat.sub_lt nonempty Nat.one_pos)]
    exact ⟨rfl, rfl⟩

theorem isBlank_of_isBreak {c : Char} (feed : (c == '\n' || c == '\r') = true) :
    isBlank c = true := by
  rcases Bool.or_eq_true_iff.mp feed with same | same
  · rw [eq_of_beq same]
    decide
  · rw [eq_of_beq same]
    decide

/-- A character that is not blank stands in its line where it is located. -/
theorem getElem?_locate (found : source.toList[position]? = some c) (visible : isBlank c = false) :
    (locate source position).text[(locate source position).column]? = some c := by
  obtain ⟨inside, -⟩ := List.getElem?_eq_some_iff.mp found
  have seen : c ≠ '\n' := by
    rintro rfl
    revert visible
    decide
  have kept : (c == '\n' || c == '\r') = false :=
    Bool.eq_false_iff.mpr fun feed => by simp [isBlank_of_isBreak feed] at visible
  have there := getElem?_rdropWhile (p := fun c => c == '\n' || c == '\r')
    (getElem?_lineAround found seen) kept
  obtain ⟨below, -⟩ := List.getElem?_eq_some_iff.mp there
  rw [String.length_toList] at inside
  rw [locate_of_lt inside, trimBreaks, ← List.rdropWhile, Nat.min_eq_left (Nat.le_of_lt below)]
  exact there

end Line

end Calculator.Text

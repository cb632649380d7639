import Calculator.Proofs.Text.Line

/-!
# Line lookup by line feeds

`LineAt` says which stretch of a text is the line at a position, in terms of line feeds alone: none
in the stretch, and one on each side of it where the text goes on. What is found for a position of a
text is that stretch without the carriage returns at its end, its number, and how far into it the
position is. A position beyond the text is looked up at its last character (`locate_eq`).
-/

namespace Calculator.Text

/-- A text is cut into a line, what is before it and what is after it, and a position lies in the
line or at its end. -/
structure LineAt (text : List Char) (position : Nat) (before stretch after : List Char) : Prop where
  whole : text = before ++ stretch ++ after
  plain : '\n' ∉ stretch
  begins : ∀ c ∈ before.getLast?, c = '\n'
  ends : ∀ c ∈ after.head?, c = '\n'
  least : before.length ≤ position
  most : position ≤ before.length + stretch.length

variable {text before stretch after : List Char} {position : Nat}

theorem length_leading (inside : position ≤ text.length) :
    ((text.take position).rdropWhile (· != '\n')).length + (leading text position).length =
      position := by
  have front : (text.take position).rdropWhile (· != '\n') ++ leading text position =
      text.take position := List.rdropWhile_append_rtakeWhile
  rw [← List.length_append, front, List.length_take_of_le inside]

/-- A text is cut at the line feeds around a position. -/
theorem lineAt_lineAround (inside : position ≤ text.length) :
    LineAt text position ((text.take position).rdropWhile (· != '\n')) (lineAround text position)
      ((text.drop position).dropWhile (· != '\n')) := by
  have way := length_leading inside
  refine ⟨?whole, feed_notMem_lineAround text position, ?begins, ?ends, by omega, ?most⟩
  case whole =>
    rw [lineAround, leading, ← List.append_assoc, List.rdropWhile_append_rtakeWhile,
      List.append_assoc, List.takeWhile_append_dropWhile, List.take_append_drop]
  case begins =>
    intro c last
    obtain ⟨nonempty, rfl⟩ := List.mem_getLast?_eq_getLast last
    simpa using List.rdropWhile_last_not (· != '\n') _ nonempty
  case ends =>
    intro c first
    have stops := List.head?_dropWhile_not (· != '\n') (text.drop position)
    rw [Option.mem_def.mp first] at stops
    simpa using stops
  case most =>
    rw [lineAround, List.length_append]
    omega

/-- In its line a character stands where its position says. -/
theorem LineAt.getElem? (cut : LineAt text position before stretch after)
    (inside : position < before.length + stretch.length) :
    stretch[position - before.length]? = text[position]? := by
  have least := cut.least
  rw [cut.whole, List.append_assoc, List.getElem?_append_right least,
    List.getElem?_append_left (by omega)]

/-- Only a line feed can stand at the end of a line. -/
theorem LineAt.lt_of_ne_feed {c : Char} (cut : LineAt text position before stretch after)
    (found : text[position]? = some c) (other : c ≠ '\n') :
    position < before.length + stretch.length := by
  refine Nat.lt_of_le_of_ne cut.most fun ended => other (cut.ends c ?_)
  rw [cut.whole, ended, ← List.length_append, List.getElem?_append_right (Nat.le_refl _),
    Nat.sub_self] at found
  rwa [Option.mem_def, List.head?_eq_getElem?]

/-- A line has no line feed to trim. -/
theorem trimBreaks_of_plain (plain : '\n' ∉ stretch) :
    Line.trimBreaks stretch = stretch.rdropWhile (· == '\r') := by
  induction stretch using List.reverseRecOn with
  | nil => rfl
  | append_singleton stretch c ih =>
    rw [List.mem_append, not_or, List.mem_singleton] at plain
    have other : (c == '\n') = false := by simpa using Ne.symm plain.2
    rw [Line.trimBreaks, ← List.rdropWhile, List.rdropWhile_concat, List.rdropWhile_concat, other,
      Bool.false_or, ← ih plain.1]
    rfl

/-- The place that is found for a position of a text has the number of line feeds before the
position, counted from one, the line at the position without the carriage returns at its end, and
the way from the start of the line, which is no longer than what is left of the line. So the
character at the position stands there, unless it is the line feed or one of those carriage
returns. A position beyond the text is at the end of what is left of the line that holds the last
character, and the empty text has one empty line. -/
theorem locate_eq (source : String) (position : Nat) :
    (position < source.length →
      ∃ before stretch after, LineAt source.toList position before stretch after ∧
        let text := stretch.rdropWhile (· == '\r')
        let column := min (position - before.length) text.length
        Line.locate source position =
          ⟨1 + (source.toList.take position).count '\n', text, column⟩ ∧
        ∀ c, source.toList[position]? = some c →
          text[column]? = some c ∨ c = '\n' ∨ c = '\r' ∧ before.length + text.length ≤ position) ∧
    (source.length ≤ position → source ≠ "" →
      let last := Line.locate source (source.length - 1)
      Line.locate source position = ⟨last.number, last.text, last.text.length⟩) ∧
    Line.locate "" position = ⟨1, [], 0⟩ := by
  refine ⟨fun inside => ?_, fun beyond nonempty => ?_, rfl⟩
  · have within : position ≤ source.toList.length := by
      rw [String.length_toList]
      exact Nat.le_of_lt inside
    have cut := lineAt_lineAround within
    have way := length_leading within
    have column : position - ((source.toList.take position).rdropWhile (· != '\n')).length =
        (leading source.toList position).length := by omega
    refine ⟨_, _, _, cut, ?_, fun c found => ?_⟩
    · rw [Line.locate_of_lt inside, trimBreaks_of_plain cut.plain, column]
    · by_cases feed : c = '\n'
      case pos => exact .inr (.inl feed)
      have there := cut.getElem? (cut.lt_of_ne_feed found feed)
      rw [found] at there
      rcases getElem?_rdropWhile_or (p := (· == '\r')) there with kept | ⟨trimmed, behind⟩
      · obtain ⟨below, -⟩ := List.getElem?_eq_some_iff.mp kept
        rw [Nat.min_eq_left (Nat.le_of_lt below)]
        exact .inl kept
      · have least := cut.least
        exact .inr (.inr ⟨eq_of_beq trimmed, by omega⟩)
  · exact Line.locate_of_length_le (by simpa using nonempty) beyond

/-- The second of two carriage returns at the end of a line is shown at the end of what is left. -/
example : Line.locate "1\nab\r\r\nc" 5 = ⟨2, ['a', 'b'], 2⟩ := by decide +kernel

end Calculator.Text

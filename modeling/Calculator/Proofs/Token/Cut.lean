import Calculator.Proofs.Calculation.Positions
import Calculator.Proofs.Calculation.Spacing

/-!
# Scanning a text in two parts

A text may be cut anywhere, and its parts scanned one by one. The tokens are those of the first
part and, moved along, those of the second, unless the cut goes through a number: then the two
tokens at the cut are one (`Token.scan_append`). Whether it does is seen at the characters nearest
to the cut that the settings keep, which may stand away from it on both sides.
-/

namespace Calculator

/-- Whether a number goes on from one text to the next: the characters nearest to the cut that the
settings keep are digits or points on both sides. -/
def Settings.joins (settings : Settings) (first second : String) : Bool :=
  (settings.kept first).getLast?.any isNumeral && (settings.kept second).head?.any isNumeral

/-- A number from the start of one token to the end of another, with the text of both. -/
def Token.join (first second : Token) : Token :=
  ⟨.number, first.text ++ second.text, first.span.join second.span⟩

namespace Token

/-- Moving a word along moves its last character along. -/
theorem relocate_add {word : Token} (some : word.span.start < word.span.stop) (width : Nat) :
    relocate (· + width) word = word.mapSpan (· + width) := by
  have stop : word.span.stop - 1 + width + 1 = word.span.stop + width := by omega
  rw [relocate, mapSpan, Span.map, stop]

/-- The words of a text that starts further on. -/
theorem ofMarks_moved (settings : Settings) (text : List Char) (width : Nat) :
    ofMarks (settings.marks text width) =
      (ofMarks (settings.marks text)).map (mapSpan (· + width)) := by
  have moved := settings.marks_add text 0 width
  rw [Nat.zero_add] at moved
  rw [moved, ofMarks_map]
  refine List.map_congr_left fun word member => ?_
  exact relocate_add (span_lt_of_mem_ofMarks (settings.pairwise_marks text) member) width

theorem scan_moved (settings : Settings) (text : String) (width : Nat) :
    (scan settings text).map (mapSpan (· + width)) =
      ofMarks (settings.marks text.toList width) ++ [finish (text.length + width)] := by
  rw [scan_eq, List.map_append, ← ofMarks_moved]
  rfl

/-- Where a text starts with a digit or a point, it starts with a run of them. -/
theorem exists_run_of_head? {marks : List Mark} {mark : Mark} (next : marks.head? = some mark)
    (numeral : isNumeral mark.1 = true) :
    ∃ run rest, marks = mark :: run ++ rest ∧
      (∀ other ∈ mark :: run, isNumeral other.1 = true) ∧
      ∀ other ∈ rest.head?, isNumeral other.1 = false := by
  let digit : Mark → Bool := fun other => isNumeral other.1
  obtain ⟨behind, rfl⟩ := List.head?_eq_some_iff.mp next
  refine ⟨behind.takeWhile digit, behind.dropWhile digit, ?_, ?_, ?_⟩
  · rw [List.cons_append, List.takeWhile_append_dropWhile]
  · refine List.forall_mem_cons.mpr ⟨numeral, fun other member => ?_⟩
    exact List.mem_takeWhile_imp (p := digit) member
  · intro other head
    have stops := List.head?_dropWhile_not digit behind
    rw [Option.mem_def.mp head] at stops
    simpa [digit] using stops

/-- Where digits or points meet, the last word on one side and the first on the other are parts of
one number. -/
theorem ofMarks_append_join {front back : List Mark} {mark other : Mark}
    (last : front.getLast? = some mark) (next : back.head? = some other)
    (numeral : isNumeral mark.1 = true) (numeralOther : isNumeral other.1 = true) :
    ∃ older previous following newer, ofMarks front = older ++ [previous] ∧
      ofMarks back = following :: newer ∧ previous.kind = .number ∧ following.kind = .number ∧
      ofMarks (front ++ back) = older ++ previous.join following :: newer := by
  obtain ⟨run, rest, rfl, digits, none⟩ := exists_run_of_head? next numeralOther
  -- the run of digits and points behind the cut ends before the rest
  have split (before : List Mark) : ofMarks (before ++ rest) = ofMarks before ++ ofMarks rest := by
    refine ofMarks_append fun mark _ following head => ?_
    rw [none following head, Bool.and_false]
  obtain ⟨older, previous, words, number, joined⟩ := ofMarks_join last numeral digits
  let following : Token :=
    ⟨.number, textOf (other :: run), ⟨other.2, (run.getLastD other).2 + 1⟩⟩
  refine ⟨older, previous, following, ofMarks rest, words, ?_, number, rfl, ?_⟩
  · rw [split, ofMarks_run digits, List.singleton_append]
  · rw [← List.append_assoc, split, joined, number, List.getLastD_cons,
      List.append_assoc, List.singleton_append]
    rfl

/-- A text cut in two is scanned into the tokens of the first part, without the mark for its end,
and those of the second part, which stand after it; but where the cut goes through a number, the
last token of the one and the first token of the other are one number. -/
theorem scan_append (settings : Settings) (first second : String) :
    (settings.joins first second = false →
      scan settings (first ++ second) =
        (scan settings first).dropLast ++
          (scan settings second).map (mapSpan (· + first.length))) ∧
    (settings.joins first second = true →
      ∃ older previous next newer,
        scan settings first = older ++ [previous, finish first.length] ∧
        scan settings second = next :: newer ∧ previous.kind = .number ∧ next.kind = .number ∧
        scan settings (first ++ second) =
          older ++ previous.join (next.mapSpan (· + first.length)) ::
            newer.map (mapSpan (· + first.length))) := by
  have marks : settings.marks (first ++ second).toList =
      settings.marks first.toList ++ settings.marks second.toList first.length := by
    rw [String.toList_append, Settings.marks_append, Nat.zero_add, String.length_toList]
  have ends : (first ++ second).length = second.length + first.length := by
    rw [String.length_append, Nat.add_comm]
  have lastKept := settings.getLast?_kept first 0
  have firstKept := settings.head?_kept second first.length
  rw [Settings.joins, ← lastKept, ← firstKept, Option.any_map, Option.any_map]
  constructor
  · intro apart
    have separate : ∀ last ∈ (settings.marks first.toList).getLast?,
        ∀ next ∈ (settings.marks second.toList first.length).head?,
          (isNumeral last.1 && isNumeral next.1) = false := by
      intro last ended next head
      rw [Option.mem_def.mp ended, Option.mem_def.mp head] at apart
      exact apart
    rw [scan_moved, scan_eq, scan_eq, List.dropLast_concat, marks, ofMarks_append separate,
      ends, List.append_assoc]
  · intro joins
    obtain ⟨ended, begun⟩ := Bool.and_eq_true_iff.mp joins
    obtain ⟨mark, last, numeral⟩ := Option.any_eq_true _ _ |>.mp ended
    obtain ⟨other, head, numeralOther⟩ := Option.any_eq_true _ _ |>.mp begun
    obtain ⟨older, previous, _, _, front, back, number, numberNext, whole⟩ :=
      ofMarks_append_join last head numeral numeralOther
    rw [ofMarks_moved, List.map_eq_cons_iff] at back
    obtain ⟨next, newer, words, rfl, rfl⟩ := back
    refine ⟨older, previous, next, newer ++ [finish second.length], ?_, ?_, number, numberNext, ?_⟩
    · rw [scan_eq, front, List.append_assoc, List.singleton_append]
    · rw [scan_eq, words, List.cons_append]
    · rw [scan_eq, marks, whole, ends, List.append_assoc, List.cons_append, List.map_append]
      rfl

/-- In the first pair a space ends the number before the cut; in the second, dropped characters on
both sides do not. -/
theorem scan_append_lenient :
    Settings.lenient.joins "(1 " "2)" = false ∧
    scan .lenient ("(1 " ++ "2)") =
      [⟨.openParen, "(", ⟨0, 1⟩⟩, ⟨.number, "1", ⟨1, 2⟩⟩, ⟨.number, "2", ⟨3, 4⟩⟩,
        ⟨.closeParen, ")", ⟨4, 5⟩⟩, finish 5] ∧
    Settings.lenient.joins "(1é" "é2)" = true ∧
    scan .lenient ("(1é" ++ "é2)") =
      [⟨.openParen, "(", ⟨0, 1⟩⟩, ⟨.number, "12", ⟨1, 5⟩⟩, ⟨.closeParen, ")", ⟨5, 6⟩⟩, finish 6] := by
  obtain ⟨apart, -⟩ := scan_append .lenient "(1 " "2)"
  obtain ⟨-, together⟩ := scan_append .lenient "(1é" "é2)"
  have separate : Settings.lenient.joins "(1 " "2)" = false := by decide
  have joins : Settings.lenient.joins "(1é" "é2)" = true := by decide
  refine ⟨separate, ?_, joins, ?_⟩
  · rw [apart separate]
    decide +kernel
  · obtain ⟨older, previous, next, newer, front, back, -, -, whole⟩ := together joins
    have words : scan .lenient "(1é" =
        [⟨.openParen, "(", ⟨0, 1⟩⟩] ++ [⟨.number, "1", ⟨1, 2⟩⟩, finish 3] := by decide +kernel
    have following : scan .lenient "é2)" =
        [⟨.number, "2", ⟨1, 2⟩⟩, ⟨.closeParen, ")", ⟨2, 3⟩⟩, finish 3] := by decide +kernel
    rw [front] at words
    rw [back] at following
    obtain ⟨rfl, tail⟩ := List.append_inj' words rfl
    obtain ⟨rfl, -⟩ := List.cons.inj tail
    obtain ⟨rfl, rfl⟩ := List.cons.inj following
    rw [whole]
    decide

end Token

end Calculator

/-!
# Finding a line

A line of a text is a stretch up to and including a line feed, or up to the end of the text. A
line feed at the very end opens no further line. `Line.locate` finds the line that holds a
position, and says how far into the line the position is.
-/

namespace Calculator.Text

/-- A place in a text, as a reader looks it up. -/
structure Line where
  /-- The number of the line, the first one being one. -/
  number : Nat
  /-- The line without the line feed and carriage returns at its end. -/
  text : List Char
  /-- Characters between the start of the line and the place, no more than the line has. -/
  column : Nat
deriving DecidableEq

namespace Line

/-- The stretches of a text up to and including each line feed, and what follows the last one. -/
def pieces : List Char → List (List Char)
  | [] => []
  | c :: text =>
    if c = '\n' then [c] :: pieces text
    else
      match pieces text with
      | [] => [[c]]
      | piece :: others => (c :: piece) :: others

theorem flatten_pieces (text : List Char) : (pieces text).flatten = text := by
  induction text with
  | nil => rfl
  | cons c text ih =>
    by_cases feed : c = '\n'
    · simp [pieces, feed, ih]
    · cases rest : pieces text with
      | nil => simp_all [pieces]
      | cons piece others => simp_all [pieces]

/-- A stretch without the line feed and the carriage returns at its end. -/
def trimBreaks (piece : List Char) : List Char :=
  (piece.reverse.dropWhile fun c => c == '\n' || c == '\r').reverse

/-- The place at a position within some stretches, the first of which has a number. A position
beyond them all is at the end of the last one. -/
def locateIn (number position : Nat) : List (List Char) → Line
  | [] => ⟨number, [], 0⟩
  | piece :: others =>
    if position < piece.length ∨ others = [] then
      let text := trimBreaks piece
      ⟨number, text, min position text.length⟩
    else locateIn (number + 1) (position - piece.length) others

def locate (source : String) (position : Nat) : Line := locateIn 1 position (pieces source.toList)

end Line

end Calculator.Text

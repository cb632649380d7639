import Calculator.Fault
import Calculator.Text.Blank
import Calculator.Text.Line

/-!
# Reporting a fault

A fault is reported in four lines: what is wrong, an empty margin, the numbered line of the source,
and a pointer that ends under the character to blame.

```text
Error: Division by zero at position 1
  |
1 | 1/0
  | -^
```

A text can be filled up to a certain width only, and a pointer that would have to be wider than that
is not written. There is no report of such a fault.
-/

namespace Calculator

/-- The greatest width that a text can be filled up to. -/
def greatestWidth : Nat := 65535

/-- A margin as wide as the number of a line, with its rule. -/
def margin (number : Nat) : String :=
  String.ofList (List.replicate (number.repr.length + 1) ' ') ++ "|"

/-- A pointer to a column: dashes, and a tip below the column. -/
def pointer (column : Nat) : String := String.ofList (List.replicate column '-') ++ "^"

/-- The pointer to a column, if it is not too wide to be written. -/
def pointer? (column : Nat) : Option String :=
  if column + 1 ≤ greatestWidth then some (pointer column) else none

/-- The four lines of a report, if the pointer can be written. The source line is shown without the
spaces at its start and the blank characters at its end, and the pointer is moved to the left along
with it. -/
def Fault.report? (fault : Fault) (source : String) : Option String :=
  let line := Text.Line.locate source fault.position
  let shown := line.text.dropWhile fun c => c == ' '
  let removed := line.text.length - shown.length
  (pointer? (line.column - removed)).map fun pointer =>
    "Error: " ++ fault.message ++ "\n" ++
    margin line.number ++ "\n" ++
    line.number.repr ++ " | " ++ String.ofList (Text.trimEnd shown) ++ "\n" ++
    margin line.number ++ " " ++ pointer ++ "\n"

end Calculator

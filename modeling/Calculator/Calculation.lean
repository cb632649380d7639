import Calculator.Expr.Parser
import Calculator.Expr.Value
import Calculator.Token.Scanner

/-!
# Calculating

The way from a text to a number: the text is scanned into tokens, the tokens are parsed into a
tree, and the tree is evaluated. Each stage tells its events in the order of its work.
-/

namespace Calculator

/-- Parses a list of tokens, to which the mark for the end of the input is added if it is
missing. -/
def parseTokens (settings : Settings) (tokens : List Token) : Calculation Expr := fun log =>
  match (Parser.wholeExpression settings).run ⟨Token.terminated tokens, log⟩ with
  | .ok tree cursor => .ok tree cursor.log
  | .error failure cursor => .error failure.fault cursor.log

/-- Scans and parses a text. -/
def parse (settings : Settings) (source : String) : Calculation Expr := do
  let scanner := Scanner.scan settings source
  modify fun log => log ++ scanner.log
  Calculation.note (.scanned scanner.tokens)
  let tree ← parseTokens settings scanner.tokens
  Calculation.note (.parsed tree)
  return tree

/-- Scans, parses and evaluates a text. -/
def calculation (settings : Settings) (source : String) : Calculation Float := do
  let tree ← parse settings source
  let value ← tree.evaluate
  Calculation.note (.finished value)
  return value

/-- The value of a text, or the fault in it. -/
def calculate (settings : Settings) (source : String) : Except Fault Float :=
  (calculation settings source).outcome

end Calculator

/-!
# Faults

What can be wrong with an expression, and where. A cause holds what its wording needs; the wording
itself is in `Cause.summary`, `Cause.details?` and `Cause.advice?`, and `Fault.message` puts a
cause and its position into one line.
-/

namespace Calculator

/-- What is wrong with an expression. -/
inductive Fault.Cause where
  | emptyExpression
  /-- A token, given by its text, cannot stand where it does; or the input has ended too early. -/
  | invalidExpression (found : Option String)
  | unmatchedParentheses
  /-- The text of a number is not a numeral. -/
  | invalidNumber (text : String)
  /-- An operator stands where its meaning is not defined. -/
  | invalidOperator (symbol : String)
  | divisionByZero
  | invalidPower
  | nestingTooDeep (limit : Nat)
deriving DecidableEq, Inhabited

/-- A cause and the position of the character that it is blamed on. -/
structure Fault where
  cause : Fault.Cause
  position : Nat
deriving DecidableEq, Inhabited

namespace Fault.Cause

def name : Cause → String
  | emptyExpression => "EmptyExpression"
  | invalidExpression _ => "InvalidExpression"
  | unmatchedParentheses => "UnmatchedParentheses"
  | invalidNumber _ => "InvalidNumber"
  | invalidOperator _ => "InvalidOperator"
  | divisionByZero => "DivisionByZero"
  | invalidPower => "InvalidPower"
  | nestingTooDeep _ => "NestingTooDeep"

def summary : Cause → String
  | emptyExpression => "Empty expression"
  | invalidExpression _ => "Invalid expression format"
  | unmatchedParentheses => "Unmatched parentheses"
  | invalidNumber _ => "Invalid number format"
  | invalidOperator _ => "Invalid operator usage"
  | divisionByZero => "Division by zero"
  | invalidPower => "Invalid power operation"
  | nestingTooDeep _ => "Expression nested too deeply"

/-- The text that is to blame, if there is one. -/
def details? : Cause → Option String
  | invalidExpression found => found
  | invalidNumber text => some text
  | invalidOperator symbol => some symbol
  | _ => none

/-- What to do about the fault. Only an empty expression needs no advice. -/
def advice? : Cause → Option String
  | emptyExpression => none
  | invalidExpression none => some "The expression ended early, is an operand missing?"
  | invalidExpression (some text) =>
    some ("Unexpected `" ++ text ++ "`, expected a number, `-` or `(`")
  | unmatchedParentheses => some "Check that all parentheses are properly matched."
  | invalidNumber _ => some "Make sure all numbers are valid."
  | invalidOperator symbol => some ("`" ++ symbol ++ "` cannot be used as a prefix operator")
  | divisionByZero => some "Division by zero is not allowed."
  | invalidPower => some "Zero cannot be raised to a negative power."
  | nestingTooDeep limit => some ("Expressions may nest at most " ++ limit.repr ++ " levels deep")

/-- Advice is missing for an empty expression and for nothing else. -/
theorem advice?_eq_none_iff {cause : Cause} : cause.advice? = none ↔ cause = emptyExpression := by
  cases cause with
  | invalidExpression found => cases found <;> simp [advice?]
  | _ => simp [advice?]

end Fault.Cause

/-- The fault in one line: what is wrong, where, and the text that is to blame. -/
def Fault.message (fault : Fault) : String :=
  let place := fault.cause.summary ++ " at position " ++ fault.position.repr
  match fault.cause.details? with
  | none => place
  | some details => place ++ ": " ++ details

end Calculator

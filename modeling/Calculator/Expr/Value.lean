import Calculator.Event
import Calculator.Fault

/-!
# The value of an expression

A tree is worth what its operators make of the values of its operands. Both operands are worked
out before the operator is applied, the left one first, so that the first fault in this order is
the fault of the whole tree.
-/

namespace Calculator

/-- A computation that tells events and ends with a value or a fault. -/
abbrev Calculation := EStateM Fault (Array Event)

namespace Calculation

def note (event : Event) : Calculation Unit := modify fun log => log.push event

/-- The value or the fault, without the events. -/
def outcome {α : Type} (calculation : Calculation α) : Except Fault α :=
  match calculation.run #[] with
  | .ok value _ => .ok value
  | .error fault _ => .error fault

/-- The events, up to the end or to the fault. -/
def log {α : Type} (calculation : Calculation α) : Array Event :=
  match calculation.run #[] with
  | .ok _ log => log
  | .error _ log => log

end Calculation

namespace Operator

/-- What an operator makes of one operand. Only the minus sign has a meaning there. -/
def applyBefore (operator : Operator) (operand : Float) : Except Fault.Cause Float :=
  match operator with
  | sub => .ok (-operand)
  | _ => .error (.invalidOperator operator.symbol)

/-- What an operator makes of two operands. Nothing can be divided by zero, and zero can not be
raised to a negative power. -/
def applyBetween (operator : Operator) (left right : Float) : Except Fault.Cause Float :=
  match operator with
  | add => .ok (left + right)
  | sub => .ok (left - right)
  | mul => .ok (left * right)
  | div => if right == 0 then .error .divisionByZero else .ok (left / right)
  | pow => if left == 0 && right < 0 then .error .invalidPower else .ok (left.pow right)

end Operator

/-- The result of a sign's operator, or a fault at the sign. -/
def Sign.conclude (sign : Sign) : Except Fault.Cause Float → Calculation Float
  | .ok value => pure value
  | .error cause => throw ⟨cause, sign.span.start⟩

/-- Works out the value of a tree, and tells each operation between two operands. -/
def Expr.evaluate : Expr → Calculation Float
  | literal value _ => pure value
  | unaryNode sign operand _ _ => do
    let value ← operand.evaluate
    sign.conclude (sign.operator.applyBefore value)
  | binaryNode sign left right _ _ => do
    let leftValue ← left.evaluate
    let rightValue ← right.evaluate
    let result ← sign.conclude (sign.operator.applyBetween leftValue rightValue)
    Calculation.note (.computed leftValue sign.operator rightValue result)
    return result

def Expr.value (tree : Expr) : Except Fault Float := tree.evaluate.outcome

end Calculator

import Calculator.Token

/-!
# Operators and how tightly they bind

The five arithmetic operators, the same operators at a place in the text, and the powers by which
they take hold of their operands. A power has a precedence, a number that grows with tightness,
and the precedence that its right operand must have at least: one more for an operator that groups
to the left, the same for one that groups to the right.
-/

namespace Calculator

inductive Operator where
  | add
  | sub
  | mul
  | div
  | pow
deriving DecidableEq, Inhabited

namespace Operator

def symbol : Operator → String
  | add => "+"
  | sub => "-"
  | mul => "*"
  | div => "/"
  | pow => "^"

/-- The operator that a kind of token stands for. -/
def ofKind? : Token.Kind → Option Operator
  | .plus => some add
  | .dash => some sub
  | .star => some mul
  | .slash => some div
  | .caret => some pow
  | _ => none

/-- The kind of token that an operator is written with. -/
def kind : Operator → Token.Kind
  | add => .plus
  | sub => .dash
  | mul => .star
  | div => .slash
  | pow => .caret

/-- An operator is read back from its own kind of token and from no other. -/
theorem ofKind?_eq_some_iff {kind : Token.Kind} {operator : Operator} :
    ofKind? kind = some operator ↔ kind = operator.kind := by
  cases kind <;> cases operator <;> simp [ofKind?, Operator.kind]

theorem kind_ne_endOfInput (operator : Operator) : operator.kind ≠ .endOfInput := by
  cases operator <;> decide

theorem symbol_injective {first second : Operator} (same : first.symbol = second.symbol) :
    first = second := by
  cases first <;> cases second <;> simp_all [symbol]

end Operator

/-- An operator at the place where it is written. -/
structure Sign where
  operator : Operator
  span : Span
deriving DecidableEq, Inhabited

/-- To which side operators of one power group when no parentheses decide. -/
inductive Associativity where
  | left
  | right
deriving DecidableEq

/-- How tightly an operator takes hold of its operands. -/
inductive BindingPower where
  /-- The power of no operator by default: the weakest. -/
  | lowest
  | additive
  | multiplicative
  | exponential
deriving DecidableEq

namespace BindingPower

/-- A number that grows with tightness. -/
def precedence : BindingPower → Nat
  | lowest => 0
  | additive => 1
  | multiplicative => 2
  | exponential => 3

/-- Raising to a power groups to the right, all else to the left. -/
def associativity : BindingPower → Associativity
  | exponential => .right
  | _ => .left

/-- The least precedence of an operator inside the right operand. -/
def rightPrecedence (power : BindingPower) : Nat :=
  match power.associativity with
  | .left => power.precedence + 1
  | .right => power.precedence

end BindingPower

/-- The binding power that an operator has by default. -/
def Operator.power : Operator → BindingPower
  | add | sub => .additive
  | mul | div => .multiplicative
  | pow => .exponential

end Calculator

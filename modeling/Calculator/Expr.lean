import Calculator.Operator

/-!
# Expression trees

An expression is a literal, an operator before one operand, or an operator between two. Every
node keeps the span of text that it covers and every inner node its height, so that both are at
hand while a tree is being built. Trees are built with `Expr.literal`, `Expr.unary` and
`Expr.binary`, which work these two out from the children.
-/

namespace Calculator

/-- A tree of literals and signs. -/
inductive Expr where
  /-- A number and the span that it was read from. -/
  | literal (value : Float) (span : Span)
  /-- A sign before its operand, with the node's own span and height. -/
  | unaryNode (sign : Sign) (operand : Expr) (span : Span) (height : Nat)
  /-- A sign between its operands, with the node's own span and height. -/
  | binaryNode (sign : Sign) (left right : Expr) (span : Span) (height : Nat)
deriving DecidableEq

namespace Expr

instance : Inhabited Expr := ⟨.literal 0 default⟩

/-- The text that the tree covers, from its first to its last literal or sign. -/
def span : Expr → Span
  | literal _ span => span
  | unaryNode _ _ span _ => span
  | binaryNode _ _ _ span _ => span

/-- The number of nodes from this one down to the deepest literal, as kept in the node. -/
def height : Expr → Nat
  | literal _ _ => 1
  | unaryNode _ _ _ height => height
  | binaryNode _ _ _ _ height => height

/-- A sign before an operand. It covers the text from the sign to the end of the operand. -/
def unary (sign : Sign) (operand : Expr) : Expr :=
  unaryNode sign operand (sign.span.join operand.span) (operand.height + 1)

/-- A sign between two operands. It covers the text from the left one to the right one. -/
def binary (sign : Sign) (left right : Expr) : Expr :=
  binaryNode sign left right (left.span.join right.span) (max left.height right.height + 1)

@[simp] theorem height_literal (value : Float) (span : Span) : (literal value span).height = 1 :=
  rfl

@[simp] theorem height_unary (sign : Sign) (operand : Expr) :
    (unary sign operand).height = operand.height + 1 := rfl

@[simp] theorem height_binary (sign : Sign) (left right : Expr) :
    (binary sign left right).height = max left.height right.height + 1 := rfl

@[simp] theorem span_literal (value : Float) (span : Span) : (literal value span).span = span :=
  rfl

@[simp] theorem span_unary (sign : Sign) (operand : Expr) :
    (unary sign operand).span = sign.span.join operand.span := rfl

@[simp] theorem span_binary (sign : Sign) (left right : Expr) :
    (binary sign left right).span = left.span.join right.span := rfl

/-- A tree is taller than its left operand. -/
theorem height_lt_height_binary (sign : Sign) (left right : Expr) :
    left.height < (binary sign left right).height := by
  rw [height_binary]
  omega

/-- Where a tree is said to go wrong: at its outermost sign, or at the start of a literal. -/
def blamed : Expr → Nat
  | literal _ span => span.start
  | unaryNode sign _ _ _ => sign.span.start
  | binaryNode sign _ _ _ _ => sign.span.start

end Expr

end Calculator

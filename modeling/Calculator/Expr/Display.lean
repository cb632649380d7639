import Calculator.Decimal.Layout
import Calculator.Expr

/-!
# Expressions in prefix form

The text of a tree with every operator before its operands, each sign with its operands between
parentheses: `(+ 2 (* 3 4))`, `(- 5)`. It shows how the tree is grouped without any rule of
precedence.
-/

namespace Calculator.Expr

/-- The tree with operators before their operands. -/
def display : Expr → String
  | literal value _ => Decimal.plain value
  | unaryNode sign operand _ _ => "(" ++ sign.operator.symbol ++ " " ++ operand.display ++ ")"
  | binaryNode sign left right _ _ =>
    "(" ++ sign.operator.symbol ++ " " ++ left.display ++ " " ++ right.display ++ ")"

end Calculator.Expr

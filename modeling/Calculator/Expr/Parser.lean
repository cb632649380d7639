import Calculator.Decimal.Numeral
import Calculator.Expr.Rules
import Calculator.Settings
import Calculator.Token.Cursor

/-!
# Parsing by precedence

An expression is an operand followed by operators and further operands. `Parser.expression` reads
an operand and then folds every operator into it that binds tightly enough for the caller; the
right operand of a folded operator is an expression again, with a higher demand on tightness.

Each expression, each operator between operands and each minus sign before one opens a level, and
no more than a limit of levels may be open at a time. The number of open levels is handed down
from caller to callee, and a fault is thrown with the number that was open where it arose. The
limit also bounds the height of every tree that is built, and this is why folding ends: each sign
folded makes the tree higher.
-/

namespace Calculator

/-- A fault, and the number of levels that were open where it arose. -/
structure Parser.Failure where
  fault : Fault
  depth : Nat
deriving DecidableEq

/-- A computation that reads tokens and ends with a value or a failure. -/
abbrev Parser := EStateM Parser.Failure Cursor

namespace Parser

def peek : Parser Token := return (← get).current

def next : Parser Token := modifyGet fun cursor => (cursor.current, cursor.advance)

def note (event : Event) : Parser Unit := modify fun cursor => cursor.note event

/-- Ends with a fault while a number of levels is open. -/
def fail {α : Type} (depth : Nat) (fault : Fault) : Parser α := throw ⟨fault, depth⟩

/-- Ends because the current token cannot stand where it does. -/
def unexpected {α : Type} (depth : Nat) : Parser α := do fail depth (← get).unexpected

/-- Ends because one level more than the limit would open at the current token. -/
def tooDeep {α : Type} (limit depth : Nat) : Parser α := do
  fail (depth + 1) ((← get).tooDeep limit)

@[simp] theorem run_peek (cursor : Cursor) : peek.run cursor = .ok cursor.current cursor := rfl

@[simp] theorem run_next (cursor : Cursor) :
    next.run cursor = .ok cursor.current cursor.advance := rfl

@[simp] theorem run_note (event : Event) (cursor : Cursor) :
    (note event).run cursor = .ok () (cursor.note event) := rfl

@[simp] theorem run_fail {α : Type} (depth : Nat) (fault : Fault) (cursor : Cursor) :
    (fail depth fault : Parser α).run cursor = .error ⟨fault, depth⟩ cursor := rfl

@[simp] theorem run_unexpected {α : Type} (depth : Nat) (cursor : Cursor) :
    (unexpected depth : Parser α).run cursor = .error ⟨cursor.unexpected, depth⟩ cursor := rfl

@[simp] theorem run_tooDeep {α : Type} (limit depth : Nat) (cursor : Cursor) :
    (tooDeep limit depth : Parser α).run cursor =
      .error ⟨cursor.tooDeep limit, depth + 1⟩ cursor := rfl

/-- The fault that a tree is higher than the limit. -/
def tooTall (limit : Nat) (tree : Expr) : Fault := ⟨.nestingTooDeep limit, tree.blamed⟩

/-- Passes a tree on if its height is within the limit. -/
def checkHeight (limit depth : Nat) (tree : Expr) : Parser Expr :=
  if tree.height ≤ limit then pure tree else fail depth (tooTall limit tree)

/-- Reads any token as a number. -/
def number (depth : Nat) : Parser Expr := do
  let token ← next
  match Decimal.read? token.text with
  | some value => return .literal value token.span
  | none => fail depth ⟨.invalidNumber token.text, token.span.start⟩

/-- Folds operators into a tree as long as they are at least as tight as asked for. The sign and
the right operand are read by `rightSide`, which is told the operator's binding power. -/
def foldOperators (rules : Rules) (limit depth least : Nat)
    (rightSide : BindingPower → Parser (Sign × Expr)) (left : Expr) : Parser Expr := do
  match rules.power (← peek).kind with
  | none => return left
  | some power =>
    if power.precedence < least then return left
    else
      let (sign, right) ← rightSide power
      if _ : (Expr.binary sign left right).height ≤ limit then
        foldOperators rules limit depth least rightSide (.binary sign left right)
      else fail depth (tooTall limit (.binary sign left right))
termination_by limit - left.height
decreasing_by
  have := Expr.height_lt_height_binary sign left right
  omega

mutual

/-- Reads an operand and folds the operators after it that are at least as tight as asked for. -/
def expression (rules : Rules) (limit depth least : Nat) : Parser Expr :=
  if depth < limit then do
    let left ← operand rules limit (depth + 1)
    foldOperators rules limit (depth + 1) least
      (fun power => rightSide rules limit (depth + 1) power) left
  else tooDeep limit depth
termination_by 3 * (limit - depth)

def operand (rules : Rules) (limit depth : Nat) : Parser Expr := do
  match rules.operand (← peek).kind with
  | some .number => number depth
  | some .negation => negation rules limit depth
  | some .grouping => grouping rules limit depth
  | none => unexpected depth
termination_by 3 * (limit - depth) + 2

/-- Reads any token as a minus sign, and the operand after it. -/
def negation (rules : Rules) (limit depth : Nat) : Parser Expr :=
  if depth < limit then do
    let token ← next
    let inner ← operand rules limit (depth + 1)
    checkHeight limit depth (.unary ⟨.sub, token.span⟩ inner)
  else tooDeep limit depth
termination_by 3 * (limit - depth) + 1

/-- Reads any token as an opening parenthesis, and an expression and a closing parenthesis after
it. -/
def grouping (rules : Rules) (limit depth : Nat) : Parser Expr := do
  let _ ← next
  let inner ← expression rules limit depth BindingPower.lowest.precedence
  let closing ← peek
  if closing.kind = .closeParen then
    let _ ← next
    return inner
  else fail depth ⟨.unmatchedParentheses, closing.span.start⟩
termination_by 3 * (limit - depth) + 1

def rightSide (rules : Rules) (limit depth : Nat) (power : BindingPower) : Parser (Sign × Expr) :=
  if depth < limit then do
    let token ← next
    match Operator.ofKind? token.kind with
    | none => fail (depth + 1) ⟨.invalidOperator token.text, token.span.start⟩
    | some operator =>
      let right ← expression rules limit (depth + 1) power.rightPrecedence
      note (.folded ⟨operator, token.span⟩)
      return (⟨operator, token.span⟩, right)
  else tooDeep limit depth
termination_by 3 * (limit - depth) + 1

end

/-- Reads an operator and its right operand, and joins them to a left operand. -/
def binary (rules : Rules) (limit depth : Nat) (left : Expr) (power : BindingPower) :
    Parser Expr := do
  let (sign, right) ← rightSide rules limit depth power
  checkHeight limit depth (.binary sign left right)

/-- Reads one expression by the standard rules, and sees to it that nothing follows which the
settings do not allow. -/
def wholeExpression (settings : Settings) : Parser Expr := do
  if (← get).hasToken then
    let tree ← expression .standard settings.maxDepth 0 BindingPower.lowest.precedence
    if (← get).hasToken then
      if settings.trailing then
        note (.trailing (← peek).span.start)
        return tree
      else unexpected 0
    else return tree
  else fail 0 ⟨.emptyExpression, (← peek).span.start⟩

end Parser

end Calculator

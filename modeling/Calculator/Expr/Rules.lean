import Calculator.Operator

/-!
# Rules of an expression

Which kinds of token may start an operand, and in what way, and which may stand between two
operands, and how tightly they bind. Rules can be added one at a time; a later rule for a kind
replaces an earlier one. The standard rules are those of ordinary arithmetic.
-/

namespace Calculator

/-- The ways in which an operand can start. -/
inductive OperandRule where
  /-- The token is a number, which is the whole operand. -/
  | number
  /-- The token is a minus sign, and its operand follows. -/
  | negation
  /-- The token opens a parenthesis, and an expression and the closing parenthesis follow. -/
  | grouping
deriving DecidableEq

/-- The kind of token that ordinary arithmetic starts an operand with. -/
def OperandRule.kind : OperandRule → Token.Kind
  | number => .number
  | negation => .dash
  | grouping => .openParen

/-- What each kind of token may start or join. -/
structure Rules where
  /-- How an operand starts with a kind of token, if it may. -/
  operand : Token.Kind → Option OperandRule
  /-- How tightly a kind of token binds between two operands, if it may stand there. -/
  power : Token.Kind → Option BindingPower

namespace Rules

/-- Nothing starts an operand, and nothing stands between two. -/
def empty : Rules := ⟨fun _ => none, fun _ => none⟩

/-- Numbers, minus signs and parentheses start operands, and the five operators join them. -/
def standard : Rules where
  operand
    | .number => some .number
    | .dash => some .negation
    | .openParen => some .grouping
    | _ => none
  power kind := (Operator.ofKind? kind).map Operator.power

/-- Each way to start an operand has one kind of token of its own by the standard rules. -/
theorem operand_standard_eq_some_iff {kind : Token.Kind} {rule : OperandRule} :
    standard.operand kind = some rule ↔ kind = rule.kind := by
  cases kind <;> cases rule <;> simp [standard, OperandRule.kind]

/-- A kind of token starts an operand by a rule from now on. -/
def addOperand (rules : Rules) (kind : Token.Kind) (rule : OperandRule) : Rules :=
  { rules with operand := fun other => if other = kind then some rule else rules.operand other }

/-- A kind of token joins operands with a binding power from now on. -/
def addOperator (rules : Rules) (kind : Token.Kind) (power : BindingPower) : Rules :=
  { rules with power := fun other => if other = kind then some power else rules.power other }

@[simp] theorem operand_addOperand (rules : Rules) (kind other : Token.Kind) (rule : OperandRule) :
    (rules.addOperand kind rule).operand other =
      if other = kind then some rule else rules.operand other := rfl

@[simp] theorem power_addOperator (rules : Rules) (kind other : Token.Kind)
    (power : BindingPower) :
    (rules.addOperator kind power).power other =
      if other = kind then some power else rules.power other := rfl

/-- If no operand starts at the end of the input, what starts one is a word. -/
theorem kind_ne_of_operand {rules : Rules} {kind : Token.Kind} {rule : OperandRule}
    (plain : rules.operand .endOfInput = none) (found : rules.operand kind = some rule) :
    kind ≠ .endOfInput := by
  rintro rfl
  rw [plain] at found
  cases found

/-- The kinds of token that start an operand. -/
def operandKinds (rules : Rules) : List Token.Kind :=
  Token.Kind.all.filter fun kind => (rules.operand kind).isSome

/-- The kinds of token that join operands, with their binding powers. -/
def powers (rules : Rules) : List (Token.Kind × BindingPower) :=
  Token.Kind.all.filterMap fun kind => (rules.power kind).map fun power => (kind, power)

end Rules

end Calculator

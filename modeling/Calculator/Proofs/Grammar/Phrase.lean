import Calculator.Decimal.Numeral
import Calculator.Expr
import Calculator.Expr.Rules

/-!
# The grammar of expressions

A phrase is an expression as it is written, its parentheses kept. `Derives` is the grammar

```text
expr    := term (("+" | "-") term)*
term    := power (("*" | "/") power)*
power   := unary ("^" power)?
unary   := "-" unary | primary
primary := NUMBER | "(" expr ")"
```

and `Phrase.Fits` says the same by binding powers, for any rules: what an operator takes hold of
depends on the precedences inside its operands. `derives_expr_iff` joins the two for the standard
rules.
-/

namespace Calculator

/-- An expression as it is written. -/
inductive Phrase where
  /-- A number, and the value that its text stands for. -/
  | number (token : Token) (value : Float)
  /-- A minus sign and its operand. -/
  | negation (sign : Token) (inner : Phrase)
  /-- An expression between parentheses. -/
  | group (opening : Token) (inner : Phrase) (closing : Token)
  /-- Two operands, and the operator that the sign between them stands for. -/
  | operation (left : Phrase) (operator : Operator) (sign : Token) (right : Phrase)

namespace Phrase

/-- The tokens of a phrase, from left to right. -/
def tokens : Phrase → List Token
  | number token _ => [token]
  | negation sign inner => sign :: inner.tokens
  | group opening inner closing => opening :: inner.tokens ++ [closing]
  | operation left _ sign right => left.tokens ++ sign :: right.tokens

/-- The tree of a phrase. Parentheses leave no node. -/
def tree : Phrase → Expr
  | number token value => .literal value token.span
  | negation sign inner => .unary ⟨.sub, sign.span⟩ inner.tree
  | group _ inner _ => inner.tree
  | operation left operator sign right => .binary ⟨operator, sign.span⟩ left.tree right.tree

/-- The greatest number of levels that are open above the phrase's own while it is read. A minus
sign and a parenthesis open one, an operator opens two for its right operand. -/
def peak : Phrase → Nat
  | number _ _ => 0
  | negation _ inner => 1 + inner.peak
  | group _ inner _ => 1 + inner.peak
  | operation left _ _ right => max left.peak (2 + right.peak)

/-- The least limit on levels and heights under which the phrase can be read. -/
def levels (phrase : Phrase) : Nat := max (1 + phrase.peak) phrase.tree.height

/-- Whether a phrase can be an operand without parentheses around it. -/
def IsOperand : Phrase → Prop
  | operation _ _ _ _ => False
  | _ => True

end Phrase

/-! ## The grammar -/

inductive Nonterminal where
  | expr
  | term
  | power
  | unary
  | primary

/-- The rules of the grammar. A repetition is a rule that starts with what it defines, so that its
operators group to the left. -/
inductive Derives : Nonterminal → Phrase → Prop where
  | term {phrase : Phrase} (whole : Derives .term phrase) : Derives .expr phrase
  | sum {left right : Phrase} {operator : Operator} {sign : Token}
      (kind : operator = .add ∨ operator = .sub) (written : sign.kind = operator.kind)
      (first : Derives .expr left) (second : Derives .term right) :
      Derives .expr (.operation left operator sign right)
  | power {phrase : Phrase} (whole : Derives .power phrase) : Derives .term phrase
  | product {left right : Phrase} {operator : Operator} {sign : Token}
      (kind : operator = .mul ∨ operator = .div) (written : sign.kind = operator.kind)
      (first : Derives .term left) (second : Derives .power right) :
      Derives .term (.operation left operator sign right)
  | unary {phrase : Phrase} (whole : Derives .unary phrase) : Derives .power phrase
  | raise {left right : Phrase} {sign : Token} (written : sign.kind = .caret)
      (first : Derives .unary left) (second : Derives .power right) :
      Derives .power (.operation left .pow sign right)
  | primary {phrase : Phrase} (whole : Derives .primary phrase) : Derives .unary phrase
  | negation {sign : Token} {inner : Phrase} (written : sign.kind = .dash)
      (operand : Derives .unary inner) : Derives .unary (.negation sign inner)
  | number {token : Token} {value : Float} (written : token.kind = .number)
      (read : Decimal.read? token.text = some value) : Derives .primary (.number token value)
  | group {opening closing : Token} {inner : Phrase} (opened : opening.kind = .openParen)
      (inside : Derives .expr inner) (closed : closing.kind = .closeParen) :
      Derives .primary (.group opening inner closing)

/-! ## Phrases by binding power -/

namespace BindingPower

/-- The least precedence of an operator inside the left operand. -/
def leftPrecedence (power : BindingPower) : Nat :=
  match power.associativity with
  | .left => power.precedence
  | .right => power.precedence + 1

/-- An operator that the right operand of another does not take in can take the other in as its
left operand, and the reverse. -/
theorem lt_rightPrecedence_iff {power next : BindingPower} :
    next.precedence < power.rightPrecedence ↔ next.leftPrecedence ≤ power.precedence := by
  cases power <;> cases next <;> decide

theorem leftPrecedence_le_of_lt {power : BindingPower} {least : Nat}
    (below : power.precedence < least) : power.leftPrecedence ≤ least := by
  unfold leftPrecedence
  split <;> omega

theorem precedence_le_leftPrecedence (power : BindingPower) :
    power.precedence ≤ power.leftPrecedence := by
  cases power <;> decide

end BindingPower

/-- Whether a phrase follows the rules and holds, outside of its operands and parentheses, only
operators of a least precedence. -/
inductive Phrase.Fits (rules : Rules) : Nat → Phrase → Prop where
  | number {least : Nat} {token : Token} {value : Float}
      (found : rules.operand token.kind = some .number)
      (read : Decimal.read? token.text = some value) : Fits rules least (.number token value)
  | negation {least : Nat} {sign : Token} {inner : Phrase}
      (found : rules.operand sign.kind = some .negation) (operand : inner.IsOperand)
      (inside : Fits rules 0 inner) : Fits rules least (.negation sign inner)
  | group {least : Nat} {opening closing : Token} {inner : Phrase}
      (found : rules.operand opening.kind = some .grouping) (inside : Fits rules 0 inner)
      (closed : closing.kind = .closeParen) : Fits rules least (.group opening inner closing)
  | operation {least : Nat} {left right : Phrase} {operator : Operator} {sign : Token}
      {power : BindingPower} (written : sign.kind = operator.kind)
      (found : rules.power sign.kind = some power) (tight : least ≤ power.precedence)
      (first : Fits rules power.leftPrecedence left)
      (second : Fits rules power.rightPrecedence right) :
      Fits rules least (.operation left operator sign right)

namespace Phrase

variable {rules : Rules} {phrase : Phrase} {least level : Nat}

theorem Fits.mono (fits : phrase.Fits rules level) (le : least ≤ level) :
    phrase.Fits rules least := by
  cases fits with
  | number found read => exact .number found read
  | negation found operand inside => exact .negation found operand inside
  | group found inside closed => exact .group found inside closed
  | operation written found tight first second =>
    exact .operation written found (Nat.le_trans le tight) first second

/-- An operand has no operator outside of itself, so it fits wherever it fits at all. -/
theorem Fits.of_isOperand (fits : phrase.Fits rules level) (operand : phrase.IsOperand) :
    phrase.Fits rules least := by
  cases fits with
  | number found read => exact .number found read
  | negation found single inside => exact .negation found single inside
  | group found inside closed => exact .group found inside closed
  | operation => exact absurd operand not_false

/-- A phrase is an operand if no operator is as tight as it asks for. -/
theorem Fits.isOperand (fits : phrase.Fits rules level)
    (beyond : ∀ power : BindingPower, power.precedence < level) : phrase.IsOperand := by
  cases fits with
  | number | negation | group => trivial
  | @operation _ _ _ _ _ power _ _ tight =>
    have below := beyond power
    omega

/-- A kind of token that starts no operand, stands for no operator and closes no group has no place
in a phrase. -/
theorem Fits.kind_ne_of_unbound {kind : Token.Kind} (plain : rules.operand kind = none)
    (unknown : Operator.ofKind? kind = none) (unclosed : kind ≠ .closeParen)
    (fits : phrase.Fits rules level) : ∀ token ∈ phrase.tokens, token.kind ≠ kind := by
  have starts : ∀ (token : Token) (rule : OperandRule), rules.operand token.kind = some rule →
      token.kind ≠ kind := by
    rintro token rule found rfl
    cases plain.symm.trans found
  induction fits with
  | @number _ token _ found _ =>
    intro other member
    obtain rfl := List.mem_singleton.mp member
    exact starts other _ found
  | @negation _ sign _ found _ _ ih =>
    intro token member
    rcases List.mem_cons.mp member with rfl | member
    · exact starts token _ found
    · exact ih token member
  | group found _ closed ih =>
    intro token member
    simp only [tokens, List.cons_append, List.mem_cons, List.mem_append, List.not_mem_nil,
      or_false] at member
    rcases member with rfl | member | rfl
    · exact starts token _ found
    · exact ih token member
    · rw [closed]
      exact unclosed.symm
  | @operation _ _ _ operator _ _ written _ _ _ _ first second =>
    intro token member
    simp only [tokens, List.mem_append, List.mem_cons] at member
    rcases member with member | rfl | member
    · exact first token member
    · rintro rfl
      cases unknown.symm.trans (Operator.ofKind?_eq_some_iff.mpr written)
    · exact second token member

theorem Fits.kind_ne (plain : rules.operand .endOfInput = none) (fits : phrase.Fits rules level) :
    ∀ token ∈ phrase.tokens, token.kind ≠ .endOfInput :=
  fits.kind_ne_of_unbound plain rfl (by decide)

end Phrase

/-! ## The grammar by binding power -/

namespace Nonterminal

/-- The least precedence of an operator outside of operands and parentheses. -/
def level : Nonterminal → Nat
  | expr => 1
  | term => 2
  | power => 3
  | unary => 4
  | primary => 4

/-- What can be derived with operators of a least precedence. -/
def ofLevel : Nat → Nonterminal
  | 0 => expr
  | 1 => expr
  | 2 => term
  | 3 => power
  | _ => unary

end Nonterminal

theorem power_standard {operator : Operator} {sign : Token} (written : sign.kind = operator.kind) :
    Rules.standard.power sign.kind = some operator.power := by
  rw [written]
  cases operator <;> rfl

theorem BindingPower.precedence_lt_four (power : BindingPower) : power.precedence < 4 := by
  cases power <;> decide

theorem Derives.fits {nonterminal : Nonterminal} {phrase : Phrase}
    (derived : Derives nonterminal phrase) : phrase.Fits .standard nonterminal.level := by
  induction derived with
  | term _ ih | power _ ih | unary _ ih | primary _ ih => exact ih.mono (by decide)
  | sum kind written _ _ first second | product kind written _ _ first second =>
    have found := power_standard written
    rcases kind with rfl | rfl
    · exact .operation written found (by decide) first second
    · exact .operation written found (by decide) first second
  | @raise _ _ sign written _ _ first second =>
    have written : sign.kind = Operator.pow.kind := written
    exact .operation written (power_standard written) (by decide) first second
  | negation written _ ih =>
    exact .negation (Rules.operand_standard_eq_some_iff.mpr written)
      (ih.isOperand BindingPower.precedence_lt_four) (ih.mono (by decide))
  | number written read =>
    exact .number (Rules.operand_standard_eq_some_iff.mpr written) read
  | group opened _ closed ih =>
    exact .group (Rules.operand_standard_eq_some_iff.mpr opened) (ih.mono (by decide)) closed

theorem Derives.of_unary {phrase : Phrase} (derived : Derives .unary phrase) (least : Nat) :
    Derives (.ofLevel least) phrase := by
  match least with
  | 0 | 1 => exact .term (.power (.unary derived))
  | 2 => exact .power (.unary derived)
  | 3 => exact .unary derived
  | _ + 4 => exact derived

theorem Derives.ofLevel_mono {phrase : Phrase} {least level : Nat} (le : least ≤ level)
    (derived : Derives (.ofLevel level) phrase) : Derives (.ofLevel least) phrase := by
  induction le with
  | refl => exact derived
  | @step level _ ih =>
    refine ih ?_
    match level with
    | 0 => exact derived
    | 1 => exact .term derived
    | 2 => exact .power derived
    | 3 => exact .unary derived
    | _ + 4 => exact derived

theorem Derives.unary_of_isOperand {phrase : Phrase} (derived : Derives .expr phrase)
    (operand : phrase.IsOperand) : Derives .unary phrase := by
  cases derived with
  | sum => exact absurd operand not_false
  | term derived =>
    cases derived with
    | product => exact absurd operand not_false
    | power derived =>
      cases derived with
      | raise => exact absurd operand not_false
      | unary derived => exact derived

theorem derives_of_fits {phrase : Phrase} {least : Nat} (fits : phrase.Fits .standard least) :
    Derives (.ofLevel least) phrase := by
  induction fits with
  | @number least _ _ found read =>
    have written := Rules.operand_standard_eq_some_iff.mp found
    exact Derives.of_unary (.primary (.number written read)) least
  | @negation least _ _ found operand _ ih =>
    have written := Rules.operand_standard_eq_some_iff.mp found
    exact Derives.of_unary (.negation written (ih.unary_of_isOperand operand)) least
  | @group least _ _ _ found _ closed ih =>
    have opened := Rules.operand_standard_eq_some_iff.mp found
    exact Derives.of_unary (.primary (.group opened ih closed)) least
  | @operation _ _ _ operator _ _ written found tight _ _ first second =>
    refine Derives.ofLevel_mono tight ?_
    obtain rfl := Option.some.inj ((power_standard written).symm.trans found)
    cases operator with
    | add => exact .sum (.inl rfl) written first second
    | sub => exact .sum (.inr rfl) written first second
    | mul => exact .product (.inl rfl) written first second
    | div => exact .product (.inr rfl) written first second
    | pow => exact .raise written first second

theorem derives_expr_iff {phrase : Phrase} :
    Derives .expr phrase ↔ phrase.Fits .standard 0 :=
  ⟨fun derived => derived.fits.mono (by decide), fun fits => derives_of_fits fits⟩

end Calculator

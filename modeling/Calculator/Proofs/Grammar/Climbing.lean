import Calculator.Expr.Session
import Calculator.Proofs.Grammar.Levels
import Calculator.Proofs.Grammar.Soundness

/-!
# Precedence climbing under any powers

The five operators can be given any binding powers, or none, as long as operands start as in
ordinary arithmetic. `Phrase.Climbs` derives phrases level by level as the powers ask for it, and
`act_expression_iff` says that reading an expression is nothing else: a session reads a phrase of
the level that it is asked for, up to a token that is no operator of that level or above.
-/

namespace Calculator

/-! ## Rules with any powers -/

namespace Rules

/-- Whether operands start as in ordinary arithmetic, and no kinds of token but those of the five
operators join two. -/
structure IsArithmetic (rules : Rules) : Prop where
  operand_eq : rules.operand = standard.operand
  known : ∀ kind, (rules.power kind).isSome → (Operator.ofKind? kind).isSome

/-- The rules after operators have been given binding powers, one after the other. -/
def joinedBy (rules : Rules) (powers : List (Operator × BindingPower)) : Rules :=
  powers.foldl (fun rules entry => rules.addOperator entry.1.kind entry.2) rules

variable {rules : Rules}

theorem isArithmetic_unjoined : IsArithmetic ⟨standard.operand, fun _ => none⟩ :=
  ⟨rfl, fun _ joined => absurd joined Bool.false_ne_true⟩

theorem IsArithmetic.addOperator (arithmetic : rules.IsArithmetic) (operator : Operator)
    (power : BindingPower) : (rules.addOperator operator.kind power).IsArithmetic := by
  refine ⟨arithmetic.operand_eq, fun kind joined => ?_⟩
  rw [power_addOperator] at joined
  split at joined
  case isTrue same =>
    rw [Operator.ofKind?_eq_some_iff.mpr same]
    rfl
  case isFalse => exact arithmetic.known kind joined

theorem IsArithmetic.joinedBy (arithmetic : rules.IsArithmetic)
    (powers : List (Operator × BindingPower)) : (rules.joinedBy powers).IsArithmetic := by
  induction powers generalizing rules with
  | nil => exact arithmetic
  | cons entry powers ih => exact ih (arithmetic.addOperator entry.1 entry.2)

theorem IsArithmetic.operand_eq_some_iff (arithmetic : rules.IsArithmetic) {kind : Token.Kind}
    {rule : OperandRule} : rules.operand kind = some rule ↔ kind = rule.kind := by
  rw [arithmetic.operand_eq, operand_standard_eq_some_iff]

theorem IsArithmetic.power_eq_none (arithmetic : rules.IsArithmetic) {kind : Token.Kind}
    (unknown : Operator.ofKind? kind = none) : rules.power kind = none := by
  cases joined : rules.power kind with
  | none => rfl
  | some power =>
    have known := arithmetic.known kind (by rw [joined]; rfl)
    rw [unknown] at known
    cases known

end Rules

/-! ## Phrases by level -/

/-- The phrases of a level. An operand belongs to every level. An operator that groups to the left
has a phrase of its own level before it and one of the next level after it; one that groups to the
right has an operand before it and a phrase of its own level after it. -/
inductive Phrase.Climbs (rules : Rules) : Nat → Phrase → Prop where
  | number {level : Nat} {token : Token} {value : Float} (written : token.kind = .number)
      (read : Decimal.read? token.text = some value) : Climbs rules level (.number token value)
  | negation {level : Nat} {sign : Token} {inner : Phrase} (written : sign.kind = .dash)
      (operand : inner.IsOperand) (inside : Climbs rules 0 inner) :
      Climbs rules level (.negation sign inner)
  | group {level : Nat} {opening closing : Token} {inner : Phrase}
      (opened : opening.kind = .openParen) (inside : Climbs rules 0 inner)
      (closed : closing.kind = .closeParen) : Climbs rules level (.group opening inner closing)
  | leftward {level : Nat} {left right : Phrase} {operator : Operator} {sign : Token}
      {power : BindingPower} (written : sign.kind = operator.kind)
      (found : rules.power operator.kind = some power) (groups : power.associativity = .left)
      (tight : level ≤ power.precedence) (first : Climbs rules power.precedence left)
      (second : Climbs rules (power.precedence + 1) right) :
      Climbs rules level (.operation left operator sign right)
  | rightward {level : Nat} {left right : Phrase} {operator : Operator} {sign : Token}
      {power : BindingPower} (written : sign.kind = operator.kind)
      (found : rules.power operator.kind = some power) (groups : power.associativity = .right)
      (tight : level ≤ power.precedence) (operand : left.IsOperand) (first : Climbs rules 0 left)
      (second : Climbs rules power.precedence right) :
      Climbs rules level (.operation left operator sign right)

namespace BindingPower

variable {power : BindingPower}

theorem precedences_of_left (groups : power.associativity = .left) :
    power.leftPrecedence = power.precedence ∧ power.rightPrecedence = power.precedence + 1 := by
  simp [leftPrecedence, rightPrecedence, groups]

/-- Beside an operator that groups to the right there is no room for an operator on the left. -/
theorem precedences_of_right (groups : power.associativity = .right) :
    (∀ other : BindingPower, other.precedence < power.leftPrecedence) ∧
      power.rightPrecedence = power.precedence := by
  cases power with
  | exponential => exact ⟨precedence_lt_four, rfl⟩
  | lowest | additive | multiplicative => cases groups

end BindingPower

namespace Phrase

variable {rules : Rules} {phrase : Phrase} {level : Nat}

theorem Climbs.fits (arithmetic : rules.IsArithmetic) (climbs : phrase.Climbs rules level) :
    phrase.Fits rules level := by
  induction climbs with
  | number written read => exact .number (arithmetic.operand_eq_some_iff.mpr written) read
  | negation written operand _ ih =>
    exact .negation (arithmetic.operand_eq_some_iff.mpr written) operand ih
  | group opened _ closed ih =>
    exact .group (arithmetic.operand_eq_some_iff.mpr opened) ih closed
  | leftward written found groups tight _ _ first second =>
    obtain ⟨before, after⟩ := BindingPower.precedences_of_left groups
    rw [← before] at first
    rw [← after] at second
    exact .operation written (by rw [written]; exact found) tight first second
  | rightward written found groups tight operand _ _ first second =>
    obtain ⟨-, after⟩ := BindingPower.precedences_of_right groups
    rw [← after] at second
    exact .operation written (by rw [written]; exact found) tight (first.of_isOperand operand)
      second

/-- An operand belongs to every level. -/
theorem Climbs.of_isOperand {other : Nat} (climbs : phrase.Climbs rules level)
    (operand : phrase.IsOperand) : phrase.Climbs rules other := by
  cases climbs with
  | number written read => exact .number written read
  | negation written single inside => exact .negation written single inside
  | group opened inside closed => exact .group opened inside closed
  | leftward | rightward => exact absurd operand not_false

theorem Fits.climbs (arithmetic : rules.IsArithmetic) (fits : phrase.Fits rules level) :
    phrase.Climbs rules level := by
  induction fits with
  | number found read => exact .number (arithmetic.operand_eq_some_iff.mp found) read
  | negation found operand _ ih =>
    exact .negation (arithmetic.operand_eq_some_iff.mp found) operand ih
  | group found _ closed ih =>
    exact .group (arithmetic.operand_eq_some_iff.mp found) ih closed
  | @operation _ left right _ _ power written found tight fits _ first second =>
    rw [written] at found
    cases groups : power.associativity with
    | left =>
      obtain ⟨before, after⟩ := BindingPower.precedences_of_left groups
      rw [before] at first
      rw [after] at second
      exact .leftward written found groups tight first second
    | right =>
      obtain ⟨beyond, after⟩ := BindingPower.precedences_of_right groups
      have operand := fits.isOperand beyond
      rw [after] at second
      exact .rightward written found groups tight operand (first.of_isOperand operand) second

theorem climbs_iff_fits (arithmetic : rules.IsArithmetic) :
    phrase.Climbs rules level ↔ phrase.Fits rules level :=
  ⟨Climbs.fits arithmetic, Fits.climbs arithmetic⟩

end Phrase

/-! ## Reading an expression -/

namespace Parser

variable {rules : Rules} {limit depth least : Nat} {cursor : Cursor} {tree : Expr}
  {rest : List Token}

/-- With room enough, an expression is read exactly if it is a phrase of its level and no operator
of that level or above follows. -/
theorem run_expression_iff (arithmetic : rules.IsArithmetic)
    (room : depth + cursor.remaining < limit) :
    (∃ log, Run rules limit (.expression least) depth cursor (.ok tree ⟨rest, log⟩)) ↔
      ∃ phrase : Phrase, phrase.Climbs rules least ∧ phrase.tree = tree ∧
        cursor.rest = phrase.tokens ++ rest ∧ Stops rules least ⟨rest, #[]⟩ := by
  have plain : rules.operand .endOfInput = none := by rw [arithmetic.operand_eq]; rfl
  constructor
  · rintro ⟨log, run⟩
    obtain ⟨phrase, fits, same, read⟩ := run.reads plain rfl
    have stops : Stops rules least ⟨rest, log⟩ := run.stops rfl rfl
    exact ⟨phrase, (Phrase.climbs_iff_fits arithmetic).mpr fits, same, read, stops⟩
  · rintro ⟨phrase, climbs, rfl, read, stops⟩
    have fits := (Phrase.climbs_iff_fits arithmetic).mp climbs
    have whole : ReadsExpression rules limit least phrase :=
      (reads_of_fits plain (arithmetic.power_eq_none rfl) fits).2.expression
    have ends := whole depth rest cursor.log stops
    rw [← read] at ends
    rcases ends with ⟨-, log, run⟩ | ⟨-, failure, after, run, cut⟩
    · exact ⟨log, run⟩
    · exact absurd cut (run.not_cutOff plain room)

end Parser

namespace Session

open Calculator.Parser

variable {session : Session} {least : Nat} {tree : Expr} {rest : List Token}

/-- Reading an expression succeeds as the parser's run does. -/
theorem act_expression_eq_ok_iff :
    (∃ after : Session, session.act (.expression least) = (.ok (.tree tree), after) ∧
        after.cursor.rest = rest) ↔
      ∃ log, Run session.rules session.limit (.expression least) session.depth session.cursor
        (.ok tree ⟨rest, log⟩) := by
  simp only [run_iff, perform, act, Session.parse]
  constructor
  · rintro ⟨after, done, rfl⟩
    split at done
    · rename_i result cursor ended
      cases done
      exact ⟨cursor.log, ended⟩
    · cases done
  · rintro ⟨log, ended⟩
    rw [ended]
    exact ⟨_, rfl, rfl⟩

end Session

theorem Token.length_terminated_le (tokens : List Token) :
    (terminated tokens).length ≤ tokens.length + 1 := by
  unfold terminated
  split
  · exact Nat.le_add_left 1 tokens.length
  · split
    · exact Nat.le_succ tokens.length
    · exact Nat.le_of_eq List.length_append

/-- What is read between two places of a list is what stands between them. -/
theorem drop_eq_append_drop_iff {α : Type} {items taken : List α} {i j : Nat}
    (below : j < items.length) :
    items.drop i = taken ++ items.drop j ↔ i ≤ j ∧ taken = (items.drop i).take (j - i) := by
  constructor
  · intro split
    have lengths := congrArg List.length split
    simp only [List.length_append, List.length_drop] at lengths
    have shift : j - i = taken.length := by omega
    refine ⟨by omega, ?_⟩
    rw [shift, split, List.take_left]
  · rintro ⟨le, rfl⟩
    have further : items.drop j = (items.drop i).drop (j - i) := by
      rw [List.drop_drop, Nat.add_sub_cancel' le]
    rw [further, List.take_append_drop]

/-- Under any binding powers of the operators, and with room enough, a session reads an expression
from one place in its tokens to another exactly if what stands between them is a phrase of the level
asked for, with the same tree, and the token at the second place is no operator of that level or
above. Such binding powers are those that operators are given in any order, and given again. -/
theorem act_expression_iff :
    (∀ powers, (Rules.joinedBy ⟨Rules.standard.operand, fun _ => none⟩ powers).IsArithmetic) ∧
    ∀ (tokens : List Token) (session : Session) (i j least : Nat) (tree : Expr)
      (below : j < (Token.terminated tokens).length),
      session.rules.IsArithmetic → session.depth = 0 → tokens.length + 1 < session.limit →
      session.cursor.rest = (Token.terminated tokens).drop i →
      ((∃ after : Session, session.act (.expression least) = (.ok (.tree tree), after) ∧
          after.cursor.rest = (Token.terminated tokens).drop j) ↔
        i ≤ j ∧ ∃ phrase : Phrase, phrase.Climbs session.rules least ∧ phrase.tree = tree ∧
          phrase.tokens = ((Token.terminated tokens).drop i).take (j - i) ∧
          ∀ power, session.rules.power (Token.terminated tokens)[j].kind = some power →
            power.precedence < least) := by
  refine ⟨fun powers => Rules.isArithmetic_unjoined.joinedBy powers, ?_⟩
  intro tokens session i j least tree below arithmetic level room here
  have remaining : session.depth + session.cursor.remaining < session.limit := by
    have words : (Token.body ((Token.terminated tokens).drop i)).length ≤ _ :=
      (List.takeWhile_sublist _).length_le
    have stored := Token.length_terminated_le tokens
    rw [List.length_drop] at words
    rw [level, Cursor.remaining, here]
    omega
  rw [Session.act_expression_eq_ok_iff, Parser.run_expression_iff arithmetic remaining, here]
  have current : (Cursor.mk ((Token.terminated tokens).drop j) #[]).current =
      (Token.terminated tokens)[j] := by
    rw [List.drop_eq_getElem_cons below]
    rfl
  simp only [drop_eq_append_drop_iff below, Parser.Stops, current]
  constructor
  · rintro ⟨phrase, climbs, same, ⟨le, read⟩, stops⟩
    exact ⟨le, phrase, climbs, same, read, stops⟩
  · rintro ⟨le, phrase, climbs, same, read, stops⟩
    exact ⟨phrase, climbs, same, ⟨le, read⟩, stops⟩

/-- A minus sign that was given the least power and then the greatest one groups to the right, and
an expression of that level stops at a star: three numbers of `2-3-4*5` are read. -/
theorem act_expression_regrouped :
    let rules := Rules.joinedBy ⟨Rules.standard.operand, fun _ => none⟩
      [(.sub, .lowest), (.mul, .multiplicative), (.sub, .exponential)]
    let tokens : List Token := [⟨.number, "2", ⟨0, 1⟩⟩, ⟨.dash, "-", ⟨1, 2⟩⟩,
      ⟨.number, "3", ⟨2, 3⟩⟩, ⟨.dash, "-", ⟨3, 4⟩⟩, ⟨.number, "4", ⟨4, 5⟩⟩, ⟨.star, "*", ⟨5, 6⟩⟩,
      ⟨.number, "5", ⟨6, 7⟩⟩]
    let session : Session := { limit := 9, rules, cursor := { rest := Token.terminated tokens } }
    session.rules.IsArithmetic ∧ session.depth = 0 ∧ tokens.length + 1 < session.limit ∧
      session.cursor.rest = (Token.terminated tokens).drop 0 ∧
      ∃ after : Session, session.act (.expression 3) = (.ok (.tree
        (.binary ⟨.sub, ⟨1, 2⟩⟩ (.literal (.ofScientific 2 false 0) ⟨0, 1⟩)
          (.binary ⟨.sub, ⟨3, 4⟩⟩ (.literal (.ofScientific 3 false 0) ⟨2, 3⟩)
            (.literal (.ofScientific 4 false 0) ⟨4, 5⟩)))), after) ∧
        after.cursor.rest = (Token.terminated tokens).drop 5 := by
  intro rules tokens session
  obtain ⟨given, reads⟩ := act_expression_iff
  have arithmetic : session.rules.IsArithmetic := given _
  have room : tokens.length + 1 < session.limit := by decide
  refine ⟨arithmetic, rfl, room, rfl, ?_⟩
  let inner : Phrase := .operation
    (.number ⟨.number, "3", ⟨2, 3⟩⟩ (.ofScientific 3 false 0)) .sub ⟨.dash, "-", ⟨3, 4⟩⟩
    (.number ⟨.number, "4", ⟨4, 5⟩⟩ (.ofScientific 4 false 0))
  let phrase : Phrase := .operation
    (.number ⟨.number, "2", ⟨0, 1⟩⟩ (.ofScientific 2 false 0)) .sub ⟨.dash, "-", ⟨1, 2⟩⟩ inner
  have found : rules.power Operator.sub.kind = some .exponential := rfl
  have right : inner.Climbs rules 3 :=
    .rightward rfl found rfl (Nat.le_refl 3) trivial (.number rfl rfl) (.number rfl rfl)
  have climbs : phrase.Climbs rules 3 :=
    .rightward rfl found rfl (Nat.le_refl 3) trivial (.number rfl rfl) right
  refine (reads tokens session 0 5 3 phrase.tree (by decide) arithmetic rfl room rfl).mpr
    ⟨by decide, phrase, climbs, rfl, rfl, ?_⟩
  rintro power ⟨⟩
  decide

end Calculator

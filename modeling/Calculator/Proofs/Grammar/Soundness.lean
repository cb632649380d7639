import Calculator.Proofs.Grammar.Phrase
import Calculator.Proofs.Parser.Run

/-!
# Whatever is parsed is a phrase

A run that ends with a tree has read the tokens of a phrase that follows the rules, and the tree is
that of the phrase. The phrase so far and the next operator decide together how the phrase goes on:
after the right operand of one operator comes no operator that the right operand would have taken
in, so the next one can take the whole phrase as its left operand.
-/

namespace Calculator.Parser

variable {rules : Rules} {limit : Nat} {task : Task} {depth : Nat} {cursor : Cursor}
  {outcome : Outcome}

/-- What a task has read when it ends with a tree. A task that folds goes on with a phrase that the
operator at the cursor can take as its left operand. -/
def Task.Reads (rules : Rules) (cursor : Cursor) (tree : Expr) (after : Cursor) : Task → Prop
  | .expression least => ∃ phrase : Phrase, phrase.Fits rules least ∧ phrase.tree = tree ∧
      cursor.rest = phrase.tokens ++ after.rest
  | .fold least left => ∀ start : Phrase, start.tree = left → start.Fits rules least →
      (∀ power, rules.power cursor.current.kind = some power → least ≤ power.precedence →
        start.Fits rules power.leftPrecedence) →
      ∃ phrase : Phrase, phrase.Fits rules least ∧ phrase.tree = tree ∧
        start.tokens ++ cursor.rest = phrase.tokens ++ after.rest
  | .operand => ∃ phrase : Phrase, phrase.IsOperand ∧ phrase.Fits rules 0 ∧ phrase.tree = tree ∧
      cursor.rest = phrase.tokens ++ after.rest
  | .start rule => rules.operand cursor.current.kind = some rule →
      ∃ phrase : Phrase, phrase.IsOperand ∧ phrase.Fits rules 0 ∧ phrase.tree = tree ∧
        cursor.rest = phrase.tokens ++ after.rest

/-- A run that ends with a tree has read a phrase. -/
theorem Run.reads (plain : rules.operand .endOfInput = none) {tree : Expr} {after : Cursor}
    (run : Run rules limit task depth cursor outcome) (done : outcome = .ok tree after) :
    task.Reads rules cursor tree after := by
  induction run generalizing tree after with
  | expressionTooDeep | expressionFails | operandMissing | invalidNumber | negationTooDeep
  | negationFails | negationTooTall | groupingFails | groupingUnmatched | foldTooDeep
  | foldInvalid | foldFails | foldTooTall => cases done
  | expression room _ _ first others =>
    obtain ⟨start, operand, fits, same, begun⟩ := first rfl
    -- an operand fits into any operator, so the next one can take it as its left operand
    obtain ⟨phrase, whole, result, ended⟩ :=
      others done start same (fits.of_isOperand operand) fun _ _ _ => fits.of_isOperand operand
    exact ⟨phrase, whole, result, begun.trans ended⟩
  | operand found _ body => exact body done found
  | @number _ cursor value read =>
    cases done
    intro found
    refine ⟨.number cursor.current value, trivial, .number found read, rfl, ?_⟩
    rw [Cursor.rest_eq (Rules.kind_ne_of_operand plain found)]
    rfl
  | negation room _ low inside =>
    cases done
    intro found
    obtain ⟨phrase, operand, fits, same, read⟩ := inside rfl
    refine ⟨.negation _ phrase, trivial, .negation found operand fits, ?_, ?_⟩
    · rw [Phrase.tree, same]
      rfl
    · rw [Cursor.rest_eq (Rules.kind_ne_of_operand plain found), read]
      rfl
  | @grouping _ _ stop _ _ closed inside =>
    cases done
    intro found
    obtain ⟨phrase, fits, same, read⟩ := inside rfl
    refine ⟨.group _ phrase stop.current, trivial, .group found fits closed, same, ?_⟩
    have closing : stop.rest = stop.current :: stop.advance.rest :=
      Cursor.rest_eq (by rw [closed]; decide)
    rw [Cursor.rest_eq (Rules.kind_ne_of_operand plain found), read, closing]
    simp [Phrase.tokens]
  | foldStops =>
    cases done
    intro start same fits _
    exact ⟨start, fits, same, rfl⟩
  | @fold least _ cursor middle left right power operator _ found tight _ known inside _ _ second
      others =>
    intro start same fits next
    obtain ⟨operand, fitsRight, sameRight, read⟩ := second rfl
    have stop : Stops rules power.rightPrecedence middle := inside.stops rfl rfl
    have written : cursor.current.kind = operator.kind := Operator.ofKind?_eq_some_iff.mp known
    have word : cursor.current.kind ≠ .endOfInput := by
      rw [written]
      exact operator.kind_ne_endOfInput
    have first := next power found tight
    -- the operators that the right operand has left can take all of this as their left operand
    obtain ⟨phrase, whole, result, ended⟩ :=
      others done (.operation start operator cursor.current operand)
        (by rw [Phrase.tree, same, sameRight]; rfl)
        (.operation written found tight first fitsRight)
        fun following other _ => .operation written found
          (BindingPower.lt_rightPrecedence_iff.mp (stop following other)) first fitsRight
    refine ⟨phrase, whole, result, ?_⟩
    rw [← ended, Cursor.rest_eq word, read]
    simp [Phrase.tokens]

/-- What is parsed is a phrase at the start of the tokens, whatever follows it. -/
theorem exists_phrase_of_outcome {settings : Settings} {tokens : List Token} {tree : Expr}
    (parsed : (parseTokens settings tokens).outcome = .ok tree) :
    ∃ (phrase : Phrase) (rest : List Token),
      phrase.Fits .standard BindingPower.lowest.precedence ∧ phrase.tree = tree ∧
      Token.terminated tokens = phrase.tokens ++ rest := by
  obtain ⟨after, run, -⟩ := exists_run_of_outcome parsed
  obtain ⟨phrase, fits, same, read⟩ := run.reads rfl rfl
  exact ⟨phrase, after.rest, fits, same, read⟩

end Calculator.Parser

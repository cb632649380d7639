import Calculator.Proofs.Parser.Expectation

/-!
# What a fault is blamed on

A parse that fails has met a token that cannot stand where it does, with all tokens before it in
order. The cause tells what is wrong with the token, or what the tokens before it lack. Only a parse
that is cut off may blame any token it has come to.
-/

namespace Calculator

/-- Whether a cause can be blamed on a token with others before it. -/
def Fault.Cause.Blames (limit : Nat) (before : List Token) (token : Token) : Fault.Cause → Prop
  | .emptyExpression => token.kind = .endOfInput
  | .invalidExpression found =>
    found = if token.kind = .endOfInput then none else some token.text
  | .unmatchedParentheses =>
    (∃ opening ∈ before, opening.kind = .openParen) ∧ token.kind ≠ .closeParen ∧
      Operator.ofKind? token.kind = none
  | .invalidNumber text =>
    token.kind = .number ∧ text = token.text ∧ Decimal.read? text = none
  | .invalidOperator _ => False
  | .divisionByZero => token.kind = .slash
  | .invalidPower => token.kind = .caret
  | .nestingTooDeep named => named = limit

/-- Whether a fault is at one of the tokens, and its cause can be blamed on that. -/
def Fault.Blames (limit : Nat) (tokens : List Token) (fault : Fault) : Prop :=
  ∃ before token after, tokens = before ++ token :: after ∧
    fault.position = token.span.start ∧ fault.cause.Blames limit before token

namespace Expectation

/-- What comes next after tokens that are all in order. -/
def after (trailing : Bool) (expectation : Expectation) : List Token → Option Expectation
  | [] => some expectation
  | token :: rest =>
    match expectation.judge trailing token with
    | .next later => later.after trailing rest
    | _ => none

/-- The number of open parentheses. -/
def opened : Expectation → Nat
  | operand opened => opened
  | operator opened => opened

variable {trailing : Bool} {expectation middle later : Expectation} {token : Token}
  {before rest tokens : List Token}

theorem after_cons (verdict : expectation.judge trailing token = .next middle) :
    expectation.after trailing (token :: rest) = middle.after trailing rest := by
  rw [after, verdict]

theorem exists_next_of_after (passed : expectation.after trailing (token :: rest) = some later) :
    ∃ middle, expectation.judge trailing token = .next middle ∧
      middle.after trailing rest = some later := by
  rw [after] at passed
  split at passed
  case h_1 middle verdict => exact ⟨middle, verdict, passed⟩
  case h_2 => cases passed

/-- Tokens that are in order are not to blame for a fault after them. -/
theorem firstFault_append (passed : expectation.after trailing before = some middle) :
    expectation.firstFault trailing (before ++ rest) = middle.firstFault trailing rest := by
  induction before generalizing expectation with
  | nil =>
    cases passed
    rfl
  | cons token before ih =>
    obtain ⟨next, verdict, others⟩ := exists_next_of_after passed
    rw [List.cons_append, firstFault, verdict]
    exact ih others

/-- A fault is at a token that is to blame after others that are in order. -/
theorem exists_blamed {fault : Fault} (found : expectation.firstFault trailing tokens = some fault)
    (marked : ∃ token ∈ tokens, token.kind = .endOfInput) :
    ∃ before token rest later, tokens = before ++ token :: rest ∧
      expectation.after trailing before = some later ∧
      later.judge trailing token = .blame fault.cause ∧ fault.position = token.span.start := by
  induction tokens generalizing expectation with
  | nil => simp at marked
  | cons token tokens ih =>
    rw [firstFault] at found
    cases verdict : expectation.judge trailing token with
    | accept =>
      rw [verdict] at found
      cases found
    | blame cause =>
      rw [verdict] at found
      cases found
      exact ⟨[], token, tokens, expectation, rfl, rfl, verdict, rfl⟩
    | next middle =>
      rw [verdict] at found
      have others : ∃ mark ∈ tokens, mark.kind = .endOfInput := by
        obtain ⟨mark, member, ending⟩ := marked
        rcases List.mem_cons.mp member with rfl | inside
        · exact absurd verdict (judge_mark_ne ending expectation middle)
        · exact ⟨mark, inside, ending⟩
      obtain ⟨before, blamed, rest, later, rfl, passed, blame, position⟩ := ih found others
      exact ⟨token :: before, blamed, rest, later, rfl, (after_cons verdict).trans passed, blame,
        position⟩

/-- How a token that is in order leads from one expectation to the next. -/
inductive Passes : Expectation → Token.Kind → Expectation → Prop where
  | negation (opened : Nat) : Passes (operand opened) .dash (operand opened)
  | opening (opened : Nat) : Passes (operand opened) .openParen (operand (opened + 1))
  | number (opened : Nat) : Passes (operand opened) .number (operator opened)
  | sign (opened : Nat) (sign : Operator) : Passes (operator opened) sign.kind (operand opened)
  | closing (opened : Nat) : Passes (operator (opened + 1)) .closeParen (operator opened)

theorem passes_of_judge (verdict : expectation.judge trailing token = .next later) :
    Passes expectation token.kind later := by
  cases expectation with
  | operand opened =>
    simp only [judge] at verdict
    split at verdict
    case h_1 dash =>
      cases verdict
      rw [dash]
      exact .negation opened
    case h_2 opening =>
      cases verdict
      rw [opening]
      exact .opening opened
    case h_3 number =>
      split at verdict
      · cases verdict
        rw [number]
        exact .number opened
      · cases verdict
    all_goals cases verdict
  | operator opened =>
    simp only [judge] at verdict
    split at verdict
    case h_6 inner closing =>
      cases verdict
      rw [closing]
      exact .closing inner
    case h_9 =>
      split at verdict
      · cases verdict
      · cases verdict
    case h_7 | h_8 => cases verdict
    -- what is left are the five operators
    all_goals
      rename_i kind
      cases verdict
      rw [kind]
    · exact .sign _ .add
    · exact .sign _ .sub
    · exact .sign _ .mul
    · exact .sign _ .div
    · exact .sign _ .pow

/-- Parentheses are counted one by one. -/
theorem Passes.opened_eq {kind : Token.Kind} (passes : Passes expectation kind later) :
    later.opened + (if kind = .closeParen then 1 else 0) =
      expectation.opened + if kind = .openParen then 1 else 0 := by
  cases passes with
  | sign opened sign => cases sign <;> rfl
  | _ => rfl

/-- What is open after some tokens is what they open less what they close. -/
theorem opened_of_after (passed : expectation.after trailing before = some later) :
    later.opened + before.countP (·.kind = .closeParen) =
      expectation.opened + before.countP (·.kind = .openParen) := by
  induction before generalizing expectation with
  | nil =>
    cases passed
    rfl
  | cons token before ih =>
    obtain ⟨middle, verdict, others⟩ := exists_next_of_after passed
    have one := (passes_of_judge verdict).opened_eq
    have counted := ih others
    simp only [List.countP_cons, decide_eq_true_eq]
    omega

/-- What a token is blamed for can be blamed on it. -/
theorem blames_of_judge {cause : Fault.Cause} {limit : Nat}
    (verdict : expectation.judge trailing token = .blame cause)
    (opening : 0 < expectation.opened → ∃ opening ∈ before, opening.kind = .openParen) :
    cause.Blames limit before token := by
  cases expectation with
  | operand opened =>
    simp only [judge] at verdict
    split at verdict
    case h_1 | h_2 => cases verdict
    case h_3 number =>
      cases read : Decimal.read? token.text with
      | some value =>
        rw [read] at verdict
        cases verdict
      | none =>
        rw [read] at verdict
        cases verdict
        exact ⟨number, rfl, read⟩
    case h_4 ending =>
      cases verdict
      exact (if_pos ending).symm
    case h_5 word =>
      cases verdict
      exact (if_neg word).symm
  | operator opened =>
    simp only [judge] at verdict
    split at verdict
    case h_7 inner plus dash star slash caret closing =>
      cases verdict
      refine ⟨opening (Nat.succ_pos inner), closing, ?_⟩
      unfold Operator.ofKind?
      split <;> first | rfl | contradiction
    case h_9 word =>
      split at verdict
      · cases verdict
      · cases verdict
        exact (if_neg word).symm
    all_goals cases verdict

/-- Where more parentheses are open than before, one has been opened. -/
theorem exists_opening (passed : expectation.after trailing before = some later)
    (more : expectation.opened < later.opened) :
    ∃ opening ∈ before, opening.kind = .openParen := by
  have counted := opened_of_after passed
  have some : 0 < before.countP (·.kind = .openParen) := by omega
  obtain ⟨opening, member, kind⟩ := List.countP_pos_iff.mp some
  exact ⟨opening, member, of_decide_eq_true kind⟩

end Expectation

namespace Parser

variable {rules : Rules} {limit : Nat} {task : Task} {depth : Nat} {cursor : Cursor}
  {outcome : Outcome} {tokens others : List Token}

/-- Whether a fault lies at one of the tokens, or the rest of them is still to be read. -/
def Outcome.Stays (tokens : List Token) : Outcome → Prop
  | .ok _ after => after.rest <:+ tokens ∧ after.Marked
  | .error failure _ => ∃ token ∈ tokens, failure.fault.position = token.span.start

theorem Outcome.Stays.mono (stays : outcome.Stays others) (suffix : others <:+ tokens) :
    outcome.Stays tokens := by
  cases outcome with
  | ok tree after => exact ⟨stays.1.trans suffix, stays.2⟩
  | error failure after =>
    obtain ⟨token, member, position⟩ := stays
    exact ⟨token, suffix.subset member, position⟩

/-- A run that fails does so at a token it has come to, also when it is cut off. -/
theorem Run.stays (run : Run rules limit task depth cursor outcome) (marked : cursor.Marked) :
    outcome.Stays cursor.rest := by
  induction run with
  | expressionTooDeep | operandMissing | invalidNumber | negationTooDeep | negationTooTall
  | foldTooDeep | foldInvalid | foldTooTall => exact ⟨_, marked.current_mem, rfl⟩
  | expressionFails _ _ first => exact first marked
  | expression _ _ _ first others =>
    obtain ⟨suffix, middle⟩ := first marked
    exact (others middle).mono suffix
  | operand _ _ body => exact body marked
  | number => exact ⟨Cursor.advance_suffix _, marked.advance⟩
  | negationFails _ _ inside => exact (inside marked.advance).mono (Cursor.advance_suffix _)
  | negation _ _ _ inside =>
    obtain ⟨suffix, after⟩ := inside marked.advance
    exact ⟨suffix.trans (Cursor.advance_suffix _), after⟩
  | groupingFails _ inside => exact (inside marked.advance).mono (Cursor.advance_suffix _)
  | groupingUnmatched _ _ inside =>
    obtain ⟨suffix, after⟩ := inside marked.advance
    have member := (suffix.trans (Cursor.advance_suffix _)).subset after.current_mem
    exact ⟨_, member, rfl⟩
  | grouping _ _ inside =>
    obtain ⟨suffix, after⟩ := inside marked.advance
    have whole := suffix.trans (Cursor.advance_suffix _)
    exact ⟨(Cursor.advance_suffix _).trans whole, after.advance⟩
  | foldStops => exact ⟨List.suffix_refl _, marked⟩
  | foldFails _ _ _ _ _ second => exact (second marked.advance).mono (Cursor.advance_suffix _)
  | fold _ _ _ _ _ _ _ second others =>
    obtain ⟨suffix, middle⟩ := second marked.advance
    exact (others (middle.note _)).mono (suffix.trans (Cursor.advance_suffix _))

end Parser

section

open Calculator.Parser

variable {settings : Settings} {tokens : List Token} {fault : Fault}

/-- Every fault of a parse lies at one of its tokens. -/
theorem exists_position_of_outcome
    (failed : (parseTokens settings tokens).outcome = .error fault) :
    ∃ token ∈ Token.terminated tokens, fault.position = token.span.start := by
  let start : Cursor := ⟨Token.terminated tokens, #[]⟩
  have marked : start.Marked := Token.exists_mark_terminated tokens
  by_cases empty : Token.body tokens = []
  case pos =>
    rw [Calculation.outcome, run_parseTokens_of_empty empty] at failed
    cases failed
    exact ⟨start.current, marked.current_mem, rfl⟩
  obtain ⟨outcome, run, ends⟩ := exists_run_parseTokens settings empty #[]
  have stays := run.stays marked
  rw [Calculation.outcome, ends] at failed
  cases done : conclude settings.trailing outcome with
  | ok tree log =>
    rw [done] at failed
    cases failed
  | error other log =>
    rw [done] at failed
    cases failed
    rcases eq_error_of_conclude done with ⟨failure, after, rfl, rfl⟩ | ⟨tree, after, rfl, rfl⟩
    · exact stays
    · exact ⟨after.current, stays.1.subset stays.2.current_mem, rfl⟩

/-- A parse that is not cut off ends in the first fault, whatever the limit. -/
theorem Token.firstFault_of_whole (whole : ∀ limit position,
    (parseTokens settings tokens).outcome ≠ .error ⟨.nestingTooDeep limit, position⟩) :
    Token.firstFault settings.trailing (Token.terminated tokens) =
      match (parseTokens settings tokens).outcome with
      | .ok _ => none
      | .error fault => some fault := by
  let high := max settings.maxDepth ((Token.body tokens).length + 1)
  have raised : (parseTokens (settings.withMaxDepth high) tokens).outcome =
      (parseTokens settings tokens).outcome :=
    (extends_parseTokens (Nat.le_max_left _ _) tokens).outcome whole
  have enough : (Token.body tokens).length < (settings.withMaxDepth high).maxDepth :=
    Nat.lt_of_lt_of_le (Nat.lt_succ_self _) (Nat.le_max_right _ _)
  rw [← raised]
  exact Token.firstFault_terminated enough

/-- A parse that fails and is not cut off has no tokens to read, or has come to a token to blame after
others that are in order. -/
theorem exists_judged_of_outcome (failed : (parseTokens settings tokens).outcome = .error fault)
    (whole : ∀ limit, fault.cause ≠ .nestingTooDeep limit) :
    (∃ first rest, Token.terminated tokens = first :: rest ∧ first.kind = .endOfInput ∧
      fault = ⟨.emptyExpression, first.span.start⟩) ∨
    ∃ before token rest later, Token.terminated tokens = before ++ token :: rest ∧
      (Expectation.operand 0).after settings.trailing before = some later ∧
      later.judge settings.trailing token = .blame fault.cause ∧
      fault.position = token.span.start := by
  have found := Token.firstFault_of_whole fun limit position deep => by
    rw [failed] at deep
    cases deep
    exact whole limit rfl
  rw [failed, Token.firstFault] at found
  by_cases ending : ((Token.terminated tokens).headD (.finish 0)).kind = .endOfInput
  case pos =>
    rw [if_pos ending] at found
    cases found
    obtain ⟨first, rest, split⟩ := List.exists_cons_of_ne_nil (Token.terminated_ne_nil tokens)
    rw [split] at ending ⊢
    exact .inl ⟨first, rest, rfl, ending, rfl⟩
  case neg =>
    rw [if_neg ending] at found
    exact .inr (Expectation.exists_blamed found (Token.exists_mark_terminated tokens))

/-- Every fault of a parse is at a token that its cause can be blamed on. -/
theorem blames_of_outcome (failed : (parseTokens settings tokens).outcome = .error fault) :
    fault.Blames settings.maxDepth (Token.terminated tokens) := by
  by_cases cut : ∃ limit, fault.cause = .nestingTooDeep limit
  case pos =>
    obtain ⟨limit, cause⟩ := cut
    obtain ⟨token, member, position⟩ := exists_position_of_outcome failed
    obtain ⟨before, after, split⟩ := List.append_of_mem member
    have same := throws_parseTokens_limit.outcome failed limit cause
    refine ⟨before, token, after, split, position, ?_⟩
    rw [cause]
    exact same
  case neg =>
    push Not at cut
    rcases exists_judged_of_outcome failed cut with
      ⟨first, rest, split, ending, rfl⟩ | ⟨before, token, rest, later, split, passed, blame, position⟩
    · exact ⟨[], first, rest, split, rfl, ending⟩
    · refine ⟨before, token, rest, split, position, ?_⟩
      exact Expectation.blames_of_judge blame (Expectation.exists_opening passed)

end

end Calculator

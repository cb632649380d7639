import Calculator.Proofs.Parser.Cutoff

/-!
# The first fault

Where a parse goes wrong can be told by reading the tokens one by one, with nothing to remember but
whether an operand or an operator comes next and how many parentheses are open. Whatever calls of
the parser are under way, a fault leaves all of them as it is; and where they end well, they leave
as many parentheses open as they have found, and an operator is what comes next.
-/

namespace Calculator

/-- What comes next, and how many parentheses are open. -/
inductive Expectation where
  | operand (opened : Nat)
  | operator (opened : Nat)

/-- What a token does to an expectation. -/
inductive Expectation.Verdict where
  | next (expectation : Expectation)
  | accept
  | blame (cause : Fault.Cause)

namespace Expectation

/-- The verdict on a token. What follows a whole expression is accepted, unread, if it may trail. -/
def judge (trailing : Bool) (token : Token) : Expectation → Verdict
  | operand opened =>
    match token.kind with
    | .dash => .next (operand opened)
    | .openParen => .next (operand (opened + 1))
    | .number =>
      match Decimal.read? token.text with
      | some _ => .next (operator opened)
      | none => .blame (.invalidNumber token.text)
    | .endOfInput => .blame (.invalidExpression none)
    | _ => .blame (.invalidExpression (some token.text))
  | operator opened =>
    match token.kind, opened with
    | .plus, _ | .dash, _ | .star, _ | .slash, _ | .caret, _ => .next (operand opened)
    | .closeParen, inner + 1 => .next (operator inner)
    | _, _ + 1 => .blame .unmatchedParentheses
    | .endOfInput, 0 => .accept
    | _, 0 => if trailing then .accept else .blame (.invalidExpression (some token.text))

/-- The fault at the first token that is to blame. The end of a list counts as a mark. -/
def firstFault (trailing : Bool) (expectation : Expectation) : List Token → Option Fault
  | [] =>
    match expectation.judge trailing (Token.finish 0) with
    | .blame cause => some ⟨cause, 0⟩
    | _ => none
  | token :: rest =>
    match expectation.judge trailing token with
    | .next later => later.firstFault trailing rest
    | .accept => none
    | .blame cause => some ⟨cause, token.span.start⟩

variable {trailing : Bool} {opened : Nat} {cursor : Cursor} {token : Token}
  {expectation later : Expectation}

theorem judge_mark_ne (ending : token.kind = .endOfInput) (expectation later : Expectation) :
    expectation.judge trailing token ≠ .next later := by
  cases expectation with
  | operand opened => simp [judge, ending]
  | operator opened => cases opened <;> simp [judge, ending]

/-- The first fault from a cursor on is told by its current token and the cursor after that. -/
theorem firstFault_rest (trailing : Bool) (expectation : Expectation) (cursor : Cursor) :
    expectation.firstFault trailing cursor.rest =
      match expectation.judge trailing cursor.current with
      | .next later => later.firstFault trailing cursor.advance.rest
      | .accept => none
      | .blame cause => some ⟨cause, cursor.current.span.start⟩ := by
  by_cases word : cursor.current.kind = .endOfInput
  case neg =>
    rw [Cursor.rest_eq word]
    rfl
  obtain ⟨rest, log⟩ := cursor
  cases rest with
  | nil =>
    rw [firstFault]
    change _ = match expectation.judge trailing (Token.finish 0) with
      | .next later => _
      | .accept => _
      | .blame cause => _
    cases verdict : expectation.judge trailing (Token.finish 0) with
    | next later => exact absurd verdict (judge_mark_ne rfl expectation later)
    | accept | blame => rfl
  | cons token rest =>
    rw [Cursor.current_cons] at word ⊢
    rw [firstFault]
    cases verdict : expectation.judge trailing token with
    | next later => exact absurd verdict (judge_mark_ne word expectation later)
    | accept | blame => rfl

theorem firstFault_of_next (verdict : expectation.judge trailing cursor.current = .next later) :
    expectation.firstFault trailing cursor.rest =
      later.firstFault trailing cursor.advance.rest := by
  rw [firstFault_rest, verdict]

theorem firstFault_of_blame {cause : Fault.Cause}
    (verdict : expectation.judge trailing cursor.current = .blame cause) :
    expectation.firstFault trailing cursor.rest = some ⟨cause, cursor.current.span.start⟩ := by
  rw [firstFault_rest, verdict]

theorem firstFault_of_accept (verdict : expectation.judge trailing cursor.current = .accept) :
    expectation.firstFault trailing cursor.rest = none := by
  rw [firstFault_rest, verdict]

theorem judge_sign {operator : Operator} (written : token.kind = operator.kind) :
    (Expectation.operator opened).judge trailing token = .next (operand opened) := by
  obtain ⟨kind, text, span⟩ := token
  cases written
  cases operator <;> rfl

theorem judge_number {value : Float} (written : token.kind = .number)
    (read : Decimal.read? token.text = some value) :
    (Expectation.operand opened).judge trailing token = .next (operator opened) := by
  obtain ⟨kind, text, span⟩ := token
  cases written
  show (match Decimal.read? text with | some _ => _ | none => _) = Verdict.next (operator opened)
  rw [read]

theorem judge_unreadable (written : token.kind = .number)
    (read : Decimal.read? token.text = none) :
    (Expectation.operand opened).judge trailing token = .blame (.invalidNumber token.text) := by
  obtain ⟨kind, text, span⟩ := token
  cases written
  show (match Decimal.read? text with | some _ => _ | none => _) = Verdict.blame _
  rw [read]

theorem judge_negation (written : token.kind = .dash) :
    (Expectation.operand opened).judge trailing token = .next (operand opened) := by
  obtain ⟨kind, text, span⟩ := token
  cases written
  rfl

theorem judge_grouping (opening : token.kind = .openParen) :
    (Expectation.operand opened).judge trailing token = .next (operand (opened + 1)) := by
  obtain ⟨kind, text, span⟩ := token
  cases opening
  rfl

theorem judge_closing (closed : token.kind = .closeParen) :
    (Expectation.operator (opened + 1)).judge trailing token = .next (operator opened) := by
  obtain ⟨kind, text, span⟩ := token
  cases closed
  rfl

/-- A token that starts no operand is to blame if one is expected. -/
theorem judge_missing (found : Rules.standard.operand cursor.current.kind = none) :
    (Expectation.operand opened).judge trailing cursor.current =
      .blame cursor.unexpected.cause := by
  revert found
  cases kind : cursor.current.kind <;> simp [Rules.standard, judge, Cursor.unexpected, kind]

theorem ofKind?_of_stops (loose : Parser.Stops .standard 0 cursor) :
    Operator.ofKind? cursor.current.kind = none := by
  cases known : Operator.ofKind? cursor.current.kind with
  | none => rfl
  | some operator =>
    have bound : Rules.standard.power cursor.current.kind = some operator.power := by
      simp [Rules.standard, known]
    exact absurd (loose operator.power bound) (Nat.not_lt_zero _)

/-- Between parentheses, what is neither an operator nor the closing parenthesis is to blame. -/
theorem judge_unmatched (loose : Parser.Stops .standard 0 cursor)
    (unclosed : cursor.current.kind ≠ .closeParen) :
    (Expectation.operator (opened + 1)).judge trailing cursor.current =
      .blame .unmatchedParentheses := by
  have unknown := ofKind?_of_stops loose
  revert unknown unclosed
  cases kind : cursor.current.kind <;> simp [Operator.ofKind?, judge, kind]

/-- Outside of parentheses, a mark ends the expression, and so does a token that may trail. -/
theorem judge_end (loose : Parser.Stops .standard 0 cursor)
    (ends : cursor.hasToken = true → trailing = true) :
    (Expectation.operator 0).judge trailing cursor.current = .accept := by
  have unknown := ofKind?_of_stops loose
  revert unknown ends
  cases kind : cursor.current.kind <;> simp [Operator.ofKind?, judge, kind, Cursor.hasToken]

/-- Outside of parentheses, any other token that is no operator is to blame. -/
theorem judge_more (loose : Parser.Stops .standard 0 cursor) (more : cursor.hasToken = true) :
    (Expectation.operator 0).judge false cursor.current = .blame cursor.unexpected.cause := by
  have unknown := ofKind?_of_stops loose
  revert unknown more
  cases kind : cursor.current.kind <;>
    simp [Operator.ofKind?, judge, kind, Cursor.hasToken, Cursor.unexpected]

end Expectation

namespace Parser

variable {limit : Nat} {task : Task} {depth : Nat} {cursor : Cursor} {outcome : Outcome}

def Task.expectation (opened : Nat) : Task → Expectation
  | .expression _ | .operand | .start _ => .operand opened
  | .fold _ _ => .operator opened

/-- Whether a task begins at a token that it is meant for. -/
def Task.Begins (cursor : Cursor) : Task → Prop
  | .start rule => cursor.current.kind = rule.kind
  | _ => True

/-- Whether a task ends in the fault that has been found, or else where an operator comes next,
with the fault still to be found. -/
def Outcome.Meets (trailing : Bool) (opened : Nat) (found : Option Fault) : Outcome → Prop
  | .ok _ after => found = (Expectation.operator opened).firstFault trailing after.rest
  | .error failure _ => found = some failure.fault

/-- Whatever the number of open parentheses, a task that is not cut off ends in the first fault
from its start, or has not met a fault and leaves as many parentheses open. -/
theorem Run.meets (trailing : Bool) (opened : Nat)
    (run : Run .standard limit task depth cursor outcome) (whole : ¬ CutOff outcome)
    (begins : task.Begins cursor) :
    outcome.Meets trailing opened
      ((task.expectation opened).firstFault trailing cursor.rest) := by
  induction run generalizing opened with
  | expressionTooDeep | negationTooDeep | negationTooTall | foldTooDeep | foldTooTall =>
    exact absurd ⟨limit, rfl⟩ whole
  | expressionFails _ _ first => exact first opened whole trivial
  | expression _ _ _ first others =>
    have before := first opened not_cutOff_ok trivial
    have after := others opened whole trivial
    simp only [Outcome.Meets, Task.expectation] at before after ⊢
    rw [before]
    exact after
  | operandMissing found =>
    exact Expectation.firstFault_of_blame (Expectation.judge_missing found)
  | operand found _ body =>
    exact body opened whole (Rules.operand_standard_eq_some_iff.mp found)
  | invalidNumber read =>
    exact Expectation.firstFault_of_blame (Expectation.judge_unreadable begins read)
  | number read => exact Expectation.firstFault_of_next (Expectation.judge_number begins read)
  | negationFails _ _ inside =>
    rw [Task.expectation, Expectation.firstFault_of_next (Expectation.judge_negation begins)]
    exact inside opened whole trivial
  | negation _ _ _ inside =>
    rw [Task.expectation, Expectation.firstFault_of_next (Expectation.judge_negation begins)]
    exact inside opened not_cutOff_ok trivial
  | groupingFails _ inside =>
    rw [Task.expectation, Expectation.firstFault_of_next (Expectation.judge_grouping begins)]
    exact inside (opened + 1) whole trivial
  -- only here does the number of open parentheses change: up for the inside, and down again with
  -- the closing parenthesis, which the inside has left unread
  | groupingUnmatched read unclosed inside =>
    rw [Task.expectation, Expectation.firstFault_of_next (Expectation.judge_grouping begins)]
    have before := inside (opened + 1) not_cutOff_ok trivial
    exact before.trans
      (Expectation.firstFault_of_blame (Expectation.judge_unmatched (read.stops rfl rfl) unclosed))
  | grouping _ closed inside =>
    rw [Task.expectation, Expectation.firstFault_of_next (Expectation.judge_grouping begins)]
    have before := inside (opened + 1) not_cutOff_ok trivial
    exact before.trans (Expectation.firstFault_of_next (Expectation.judge_closing closed))
  | foldStops => rfl
  | foldInvalid found _ _ unknown =>
    -- by the standard rules every kind with a power is the kind of an operator
    simp [Rules.standard, unknown] at found
  | foldFails _ _ _ known _ second =>
    have written := Operator.ofKind?_eq_some_iff.mp known
    rw [Task.expectation, Expectation.firstFault_of_next (Expectation.judge_sign written)]
    exact second opened whole trivial
  | fold _ _ _ known _ _ _ second others =>
    have written := Operator.ofKind?_eq_some_iff.mp known
    rw [Task.expectation, Expectation.firstFault_of_next (Expectation.judge_sign written)]
    have before := second opened not_cutOff_ok trivial
    have after := others opened whole trivial
    simp only [Outcome.Meets, Task.expectation, Cursor.rest_note] at before after ⊢
    rw [before]
    exact after

end Parser

/-- The fault of a list of tokens that ends in a mark, if there is one. -/
def Token.firstFault (trailing : Bool) (tokens : List Token) : Option Fault :=
  let first := tokens.headD (finish 0)
  if first.kind = .endOfInput then some ⟨.emptyExpression, first.span.start⟩
  else (Expectation.operand 0).firstFault trailing tokens

section

open Calculator.Parser

variable {settings : Settings} {tokens : List Token}

/-- What the settings allow after an expression is what is accepted after it. -/
theorem Parser.Outcome.Meets.conclude {trailing : Bool} {outcome : Outcome} {found : Option Fault}
    (meets : outcome.Meets trailing 0 found)
    (stops : ∀ tree after, outcome = .ok tree after → Stops .standard 0 after) :
    found = match Parser.conclude trailing outcome with
      | .ok _ _ => none
      | .error fault _ => some fault := by
  cases outcome with
  | error failure after => exact meets
  | ok tree after =>
    have loose := stops tree after rfl
    by_cases ends : after.hasToken = true → trailing = true
    case pos =>
      refine (meets.trans (Expectation.firstFault_of_accept
        (Expectation.judge_end loose ends))).trans ?_
      by_cases more : after.hasToken = true
      · simp [Parser.conclude, more, ends more]
      · simp [Parser.conclude, more]
    case neg =>
      push Not at ends
      obtain ⟨more, strict⟩ := ends
      obtain rfl := Bool.eq_false_iff.mpr strict
      refine (meets.trans (Expectation.firstFault_of_blame
        (Expectation.judge_more loose more))).trans ?_
      simp [Parser.conclude, more, Cursor.unexpected]

/-- With room enough, a parse ends in the first fault, and with a tree if there is none. -/
theorem Token.firstFault_terminated (enough : (Token.body tokens).length < settings.maxDepth) :
    Token.firstFault settings.trailing (Token.terminated tokens) =
      match (parseTokens settings tokens).outcome with
      | .ok _ => none
      | .error fault => some fault := by
  let start : Cursor := ⟨Token.terminated tokens, #[]⟩
  by_cases empty : Token.body tokens = []
  case pos =>
    have ending : start.current.kind = .endOfInput := by
      rw [← Cursor.body_rest_eq_nil_iff, Token.body_terminated, empty]
    rw [Calculation.outcome, run_parseTokens_of_empty empty]
    exact if_pos ending
  have word : start.current.kind ≠ .endOfInput :=
    Cursor.hasToken_iff.mp (Cursor.hasToken_terminated_iff.mpr empty)
  obtain ⟨outcome, run⟩ := exists_run .standard settings.maxDepth
    (.expression BindingPower.lowest.precedence) 0 start
  have whole : ¬ CutOff outcome := by
    refine run.not_cutOff rfl ?_
    rwa [Nat.zero_add, Cursor.remaining, Token.body_terminated]
  have meets := run.meets settings.trailing 0 whole trivial
  have found := meets.conclude fun tree after done => run.stops done rfl
  rw [Calculation.outcome, run_parseTokens empty run]
  refine (if_neg word).trans (found.trans ?_)
  cases conclude settings.trailing outcome with
  | ok tree log => rfl
  | error fault log => rfl

/-- If the limit is above the number of tokens, a parse fails exactly as the tokens say when they
are read one by one, with the same cause and position, and otherwise it ends with a tree. -/
theorem outcome_parseTokens_iff_firstFault
    (enough : (Token.body tokens).length < settings.maxDepth) :
    (∀ fault, (parseTokens settings tokens).outcome = .error fault ↔
      Token.firstFault settings.trailing (Token.terminated tokens) = some fault) ∧
    ((∃ tree, (parseTokens settings tokens).outcome = .ok tree) ↔
      Token.firstFault settings.trailing (Token.terminated tokens) = none) := by
  rw [Token.firstFault_terminated enough]
  cases (parseTokens settings tokens).outcome with
  | ok tree => simp
  | error fault => simp

/-- The tokens of `(2`, and of `2)` with and without a trailing token allowed. -/
theorem outcome_parseTokens_unbalanced :
    (parseTokens {} [⟨.openParen, "(", ⟨0, 1⟩⟩, ⟨.number, "2", ⟨1, 2⟩⟩]).outcome =
      .error ⟨.unmatchedParentheses, 2⟩ ∧
    (parseTokens {} [⟨.number, "2", ⟨0, 1⟩⟩, ⟨.closeParen, ")", ⟨1, 2⟩⟩]).outcome =
      .error ⟨.invalidExpression (some ")"), 1⟩ ∧
    (∃ tree, (parseTokens .lenient
      [⟨.number, "2", ⟨0, 1⟩⟩, ⟨.closeParen, ")", ⟨1, 2⟩⟩]).outcome = .ok tree) := by
  refine ⟨?_, ?_, ?_⟩
  · exact ((outcome_parseTokens_iff_firstFault (by decide)).1 _).mpr rfl
  · exact ((outcome_parseTokens_iff_firstFault (by decide)).1 _).mpr rfl
  · exact (outcome_parseTokens_iff_firstFault (by decide)).2.mpr rfl

end

end Calculator

import Calculator.Calculation
import Calculator.Proofs.Token.Body

/-!
# Runs of the parser

The functions of the parser call each other while a cursor and a number of open levels go round.
`Parser.Run` gives what they do as a relation, with one rule for each way in which a piece of
parsing can end. `Parser.run_iff` says that the rules and the functions agree, so that a property
of every run is one induction over the rules, and a run is shown to exist by applying them.
-/

namespace Calculator.Parser

/-- How a piece of parsing ends, and with which cursor. -/
abbrev Outcome := EStateM.Result Failure Cursor Expr

/-- A piece of parsing. -/
inductive Task where
  | expression (least : Nat)
  | fold (least : Nat) (left : Expr)
  | operand
  /-- To read an operand that starts in a given way. -/
  | start (rule : OperandRule)

/-- The function for a piece of parsing. -/
def perform (rules : Rules) (limit depth : Nat) : Task → Parser Expr
  | .expression least => expression rules limit depth least
  | .fold least left =>
    foldOperators rules limit depth least (fun power => rightSide rules limit depth power) left
  | .operand => operand rules limit depth
  | .start .number => number depth
  | .start .negation => negation rules limit depth
  | .start .grouping => grouping rules limit depth

/-- The tree that the current token makes of an operand as a minus sign. -/
def negated (cursor : Cursor) (inner : Expr) : Expr := .unary ⟨.sub, cursor.current.span⟩ inner

/-- The tree that the current token makes of two operands as the sign of an operator. -/
def folded (cursor : Cursor) (operator : Operator) (left right : Expr) : Expr :=
  .binary ⟨operator, cursor.current.span⟩ left right

/-- Whether the current token is no operator that is as tight as asked for. -/
def Stops (rules : Rules) (least : Nat) (cursor : Cursor) : Prop :=
  ∀ power, rules.power cursor.current.kind = some power → power.precedence < least

/-- `Run rules limit task depth cursor outcome` means that the task ends so when it is begun at
the cursor while `depth` levels are open. -/
inductive Run (rules : Rules) (limit : Nat) : Task → Nat → Cursor → Outcome → Prop where
  | expressionTooDeep {least depth : Nat} {cursor : Cursor} (full : limit ≤ depth) :
      Run rules limit (.expression least) depth cursor
        (.error ⟨cursor.tooDeep limit, depth + 1⟩ cursor)
  | expressionFails {least depth : Nat} {cursor after : Cursor} {failure : Failure}
      (room : depth < limit)
      (first : Run rules limit .operand (depth + 1) cursor (.error failure after)) :
      Run rules limit (.expression least) depth cursor (.error failure after)
  | expression {least depth : Nat} {cursor middle : Cursor} {left : Expr} {outcome : Outcome}
      (room : depth < limit)
      (first : Run rules limit .operand (depth + 1) cursor (.ok left middle))
      (others : Run rules limit (.fold least left) (depth + 1) middle outcome) :
      Run rules limit (.expression least) depth cursor outcome
  | operandMissing {depth : Nat} {cursor : Cursor}
      (found : rules.operand cursor.current.kind = none) :
      Run rules limit .operand depth cursor (.error ⟨cursor.unexpected, depth⟩ cursor)
  | operand {depth : Nat} {cursor : Cursor} {rule : OperandRule} {outcome : Outcome}
      (found : rules.operand cursor.current.kind = some rule)
      (body : Run rules limit (.start rule) depth cursor outcome) :
      Run rules limit .operand depth cursor outcome
  | invalidNumber {depth : Nat} {cursor : Cursor}
      (read : Decimal.read? cursor.current.text = none) :
      Run rules limit (.start .number) depth cursor
        (.error ⟨⟨.invalidNumber cursor.current.text, cursor.current.span.start⟩, depth⟩
          cursor.advance)
  | number {depth : Nat} {cursor : Cursor} {value : Float}
      (read : Decimal.read? cursor.current.text = some value) :
      Run rules limit (.start .number) depth cursor
        (.ok (.literal value cursor.current.span) cursor.advance)
  | negationTooDeep {depth : Nat} {cursor : Cursor} (full : limit ≤ depth) :
      Run rules limit (.start .negation) depth cursor
        (.error ⟨cursor.tooDeep limit, depth + 1⟩ cursor)
  | negationFails {depth : Nat} {cursor after : Cursor} {failure : Failure}
      (room : depth < limit)
      (inside : Run rules limit .operand (depth + 1) cursor.advance (.error failure after)) :
      Run rules limit (.start .negation) depth cursor (.error failure after)
  | negationTooTall {depth : Nat} {cursor after : Cursor} {inner : Expr}
      (room : depth < limit)
      (inside : Run rules limit .operand (depth + 1) cursor.advance (.ok inner after))
      (tall : limit < (negated cursor inner).height) :
      Run rules limit (.start .negation) depth cursor
        (.error ⟨tooTall limit (negated cursor inner), depth⟩ after)
  | negation {depth : Nat} {cursor after : Cursor} {inner : Expr}
      (room : depth < limit)
      (inside : Run rules limit .operand (depth + 1) cursor.advance (.ok inner after))
      (low : (negated cursor inner).height ≤ limit) :
      Run rules limit (.start .negation) depth cursor (.ok (negated cursor inner) after)
  | groupingFails {depth : Nat} {cursor after : Cursor} {failure : Failure}
      (inside : Run rules limit (.expression BindingPower.lowest.precedence) depth cursor.advance
        (.error failure after)) :
      Run rules limit (.start .grouping) depth cursor (.error failure after)
  | groupingUnmatched {depth : Nat} {cursor after : Cursor} {inner : Expr}
      (inside : Run rules limit (.expression BindingPower.lowest.precedence) depth cursor.advance
        (.ok inner after))
      (unclosed : after.current.kind ≠ .closeParen) :
      Run rules limit (.start .grouping) depth cursor
        (.error ⟨⟨.unmatchedParentheses, after.current.span.start⟩, depth⟩ after)
  | grouping {depth : Nat} {cursor after : Cursor} {inner : Expr}
      (inside : Run rules limit (.expression BindingPower.lowest.precedence) depth cursor.advance
        (.ok inner after))
      (closed : after.current.kind = .closeParen) :
      Run rules limit (.start .grouping) depth cursor (.ok inner after.advance)
  | foldStops {least depth : Nat} {cursor : Cursor} {left : Expr}
      (loose : Stops rules least cursor) :
      Run rules limit (.fold least left) depth cursor (.ok left cursor)
  | foldTooDeep {least depth : Nat} {cursor : Cursor} {left : Expr} {power : BindingPower}
      (found : rules.power cursor.current.kind = some power) (tight : least ≤ power.precedence)
      (full : limit ≤ depth) :
      Run rules limit (.fold least left) depth cursor
        (.error ⟨cursor.tooDeep limit, depth + 1⟩ cursor)
  | foldInvalid {least depth : Nat} {cursor : Cursor} {left : Expr} {power : BindingPower}
      (found : rules.power cursor.current.kind = some power) (tight : least ≤ power.precedence)
      (room : depth < limit) (unknown : Operator.ofKind? cursor.current.kind = none) :
      Run rules limit (.fold least left) depth cursor
        (.error ⟨⟨.invalidOperator cursor.current.text, cursor.current.span.start⟩, depth + 1⟩
          cursor.advance)
  | foldFails {least depth : Nat} {cursor after : Cursor} {left : Expr} {power : BindingPower}
      {operator : Operator} {failure : Failure}
      (found : rules.power cursor.current.kind = some power) (tight : least ≤ power.precedence)
      (room : depth < limit) (known : Operator.ofKind? cursor.current.kind = some operator)
      (second : Run rules limit (.expression power.rightPrecedence) (depth + 1) cursor.advance
        (.error failure after)) :
      Run rules limit (.fold least left) depth cursor (.error failure after)
  | foldTooTall {least depth : Nat} {cursor after : Cursor} {left right : Expr}
      {power : BindingPower} {operator : Operator}
      (found : rules.power cursor.current.kind = some power) (tight : least ≤ power.precedence)
      (room : depth < limit) (known : Operator.ofKind? cursor.current.kind = some operator)
      (second : Run rules limit (.expression power.rightPrecedence) (depth + 1) cursor.advance
        (.ok right after))
      (tall : limit < (folded cursor operator left right).height) :
      Run rules limit (.fold least left) depth cursor
        (.error ⟨tooTall limit (folded cursor operator left right), depth⟩
          (after.note (.folded ⟨operator, cursor.current.span⟩)))
  | fold {least depth : Nat} {cursor middle : Cursor} {left right : Expr}
      {power : BindingPower} {operator : Operator} {outcome : Outcome}
      (found : rules.power cursor.current.kind = some power) (tight : least ≤ power.precedence)
      (room : depth < limit) (known : Operator.ofKind? cursor.current.kind = some operator)
      (second : Run rules limit (.expression power.rightPrecedence) (depth + 1) cursor.advance
        (.ok right middle))
      (low : (folded cursor operator left right).height ≤ limit)
      (others : Run rules limit (.fold least (folded cursor operator left right)) depth
        (middle.note (.folded ⟨operator, cursor.current.span⟩)) outcome) :
      Run rules limit (.fold least left) depth cursor outcome

variable {rules : Rules} {limit : Nat}

theorem run_ok {α β : Type} {first : Parser α} {others : α → Parser β} {cursor after : Cursor}
    {value : α} (done : first.run cursor = .ok value after) :
    (first >>= others).run cursor = (others value).run after := by
  rw [EStateM.run_bind, done]

theorem run_error {α β : Type} {first : Parser α} {others : α → Parser β} {cursor after : Cursor}
    {failure : Failure} (done : first.run cursor = .error failure after) :
    (first >>= others).run cursor = .error failure after := by
  rw [EStateM.run_bind, done]

/-- The right side of an operator is read by reading its sign and then an expression. -/
theorem run_rightSide {depth : Nat} {cursor after : Cursor} {power : BindingPower}
    {operator : Operator} {right : Expr} (room : depth < limit)
    (known : Operator.ofKind? cursor.current.kind = some operator)
    (second : (expression rules limit (depth + 1) power.rightPrecedence).run cursor.advance =
      .ok right after) :
    (rightSide rules limit depth power).run cursor =
      .ok (⟨operator, cursor.current.span⟩, right)
        (after.note (.folded ⟨operator, cursor.current.span⟩)) := by
  rw [rightSide, if_pos room, run_ok (run_next _), known]
  refine (run_ok second).trans ?_
  rw [run_ok (run_note _ _)]
  rfl

/-- The rules say nothing but what the functions do. -/
theorem run_perform {task : Task} {depth : Nat} {cursor : Cursor} {outcome : Outcome}
    (run : Run rules limit task depth cursor outcome) :
    (perform rules limit depth task).run cursor = outcome := by
  induction run with
  | expressionTooDeep full =>
    rw [perform, expression, if_neg (Nat.not_lt.mpr full)]
    rfl
  | expressionFails room _ first =>
    rw [perform, expression, if_pos room]
    exact run_error first
  | expression room _ _ first others =>
    rw [perform, expression, if_pos room]
    exact (run_ok first).trans others
  | operandMissing found =>
    rw [perform, operand, run_ok (run_peek _), found]
    rfl
  | @operand _ _ rule _ found _ body =>
    rw [perform, operand, run_ok (run_peek _), found]
    cases rule <;> exact body
  | invalidNumber read =>
    rw [perform, number, run_ok (run_next _), read]
    rfl
  | number read =>
    rw [perform, number, run_ok (run_next _), read]
    rfl
  | negationTooDeep full =>
    rw [perform, negation, if_neg (Nat.not_lt.mpr full)]
    rfl
  | negationFails room _ inside =>
    rw [perform, negation, if_pos room, run_ok (run_next _)]
    exact run_error inside
  | negationTooTall room _ tall inside =>
    rw [perform, negation, if_pos room, run_ok (run_next _)]
    refine (run_ok inside).trans ?_
    exact congrArg (EStateM.run · _) (if_neg (Nat.not_le.mpr tall))
  | negation room _ low inside =>
    rw [perform, negation, if_pos room, run_ok (run_next _)]
    refine (run_ok inside).trans ?_
    exact congrArg (EStateM.run · _) (if_pos low)
  | groupingFails _ inside =>
    rw [perform, grouping, run_ok (run_next _)]
    exact run_error inside
  | groupingUnmatched _ unclosed inside =>
    rw [perform, grouping, run_ok (run_next _)]
    refine (run_ok inside).trans ?_
    rw [run_ok (run_peek _), if_neg unclosed]
    rfl
  | grouping _ closed inside =>
    rw [perform, grouping, run_ok (run_next _)]
    refine (run_ok inside).trans ?_
    rw [run_ok (run_peek _), if_pos closed]
    rfl
  | @foldStops _ _ cursor _ loose =>
    rw [perform, foldOperators, run_ok (run_peek _)]
    cases found : rules.power cursor.current.kind with
    | none => rfl
    | some power => exact congrArg (EStateM.run · cursor) (if_pos (loose power found))
  | foldTooDeep found tight full =>
    rw [perform, foldOperators, run_ok (run_peek _), found]
    refine (congrArg (EStateM.run · _) (if_neg (Nat.not_lt.mpr tight))).trans (run_error ?_)
    rw [rightSide, if_neg (Nat.not_lt.mpr full)]
    rfl
  | foldInvalid found tight room unknown =>
    rw [perform, foldOperators, run_ok (run_peek _), found]
    refine (congrArg (EStateM.run · _) (if_neg (Nat.not_lt.mpr tight))).trans (run_error ?_)
    rw [rightSide, if_pos room, run_ok (run_next _), unknown]
    rfl
  | foldFails found tight room known _ second =>
    rw [perform, foldOperators, run_ok (run_peek _), found]
    refine (congrArg (EStateM.run · _) (if_neg (Nat.not_lt.mpr tight))).trans (run_error ?_)
    rw [rightSide, if_pos room, run_ok (run_next _), known]
    exact run_error second
  | foldTooTall found tight room known _ tall second =>
    rw [perform, foldOperators, run_ok (run_peek _), found]
    refine (congrArg (EStateM.run · _) (if_neg (Nat.not_lt.mpr tight))).trans ?_
    refine (run_ok (run_rightSide room known second)).trans ?_
    exact congrArg (EStateM.run · _) (dif_neg (Nat.not_le.mpr tall))
  | fold found tight room known _ low _ second others =>
    rw [perform, foldOperators, run_ok (run_peek _), found]
    refine (congrArg (EStateM.run · _) (if_neg (Nat.not_lt.mpr tight))).trans ?_
    refine (run_ok (run_rightSide room known second)).trans ?_
    exact (congrArg (EStateM.run · _) (dif_pos low)).trans others

/-! ## Every task has a run -/

/-- Where expressions can be read one level up, operators can be folded into any tree. The
induction is on how much higher than the tree the limit allows trees to be. -/
theorem exists_run_fold {depth least : Nat}
    (deeper : ∀ next cursor, depth < limit →
      ∃ outcome, Run rules limit (.expression next) (depth + 1) cursor outcome) :
    ∀ (left : Expr) (cursor : Cursor),
      ∃ outcome, Run rules limit (.fold least left) depth cursor outcome := by
  intro left
  induction size : limit - left.height using Nat.strongRecOn generalizing left with
  | ind gap ih =>
    intro cursor
    cases found : rules.power cursor.current.kind with
    | none => exact ⟨_, .foldStops (by simp [Stops, found])⟩
    | some power =>
      by_cases tight : least ≤ power.precedence
      case neg =>
        exact ⟨_, .foldStops fun other same => by
          obtain rfl := Option.some.inj (found.symm.trans same)
          omega⟩
      by_cases room : depth < limit
      case neg => exact ⟨_, .foldTooDeep found tight (by omega)⟩
      cases known : Operator.ofKind? cursor.current.kind with
      | none => exact ⟨_, .foldInvalid found tight room known⟩
      | some operator =>
        obtain ⟨second, run⟩ := deeper power.rightPrecedence cursor.advance room
        cases second with
        | error failure after => exact ⟨_, .foldFails found tight room known run⟩
        | ok right after =>
          by_cases low : (folded cursor operator left right).height ≤ limit
          case neg => exact ⟨_, .foldTooTall found tight room known run (by omega)⟩
          have taller : left.height < (folded cursor operator left right).height :=
            Expr.height_lt_height_binary _ left right
          have lower : limit - (folded cursor operator left right).height < gap := by omega
          obtain ⟨outcome, others⟩ := ih _ lower (folded cursor operator left right) rfl
            (after.note (.folded ⟨operator, cursor.current.span⟩))
          exact ⟨outcome, .fold found tight room known run low others⟩

/-- Every task ends. A level can be opened only below the limit, so the induction is on the number
of levels that are left. -/
theorem exists_run (rules : Rules) (limit : Nat) (task : Task) (depth : Nat) (cursor : Cursor) :
    ∃ outcome, Run rules limit task depth cursor outcome := by
  induction size : limit - depth using Nat.strongRecOn generalizing task depth cursor with
  | ind gap ih =>
    have deeper : depth < limit → ∀ next cursor,
        ∃ outcome, Run rules limit next (depth + 1) cursor outcome :=
      fun room next cursor => ih _ (by omega) next (depth + 1) cursor rfl
    have ofExpression : ∀ least cursor,
        ∃ outcome, Run rules limit (.expression least) depth cursor outcome := by
      intro least cursor
      by_cases room : depth < limit
      case neg => exact ⟨_, .expressionTooDeep (by omega)⟩
      obtain ⟨first, run⟩ := deeper room .operand cursor
      cases first with
      | error failure after => exact ⟨_, .expressionFails room run⟩
      | ok tree middle =>
        obtain ⟨outcome, others⟩ := deeper room (.fold least tree) middle
        exact ⟨outcome, .expression room run others⟩
    have ofStart : ∀ rule cursor,
        ∃ outcome, Run rules limit (.start rule) depth cursor outcome := by
      intro rule cursor
      cases rule with
      | number =>
        cases read : Decimal.read? cursor.current.text with
        | none => exact ⟨_, .invalidNumber read⟩
        | some value => exact ⟨_, .number read⟩
      | negation =>
        by_cases room : depth < limit
        case neg => exact ⟨_, .negationTooDeep (by omega)⟩
        obtain ⟨inner, run⟩ := deeper room .operand cursor.advance
        cases inner with
        | error failure after => exact ⟨_, .negationFails room run⟩
        | ok tree after =>
          by_cases low : (negated cursor tree).height ≤ limit
          case neg => exact ⟨_, .negationTooTall room run (by omega)⟩
          exact ⟨_, .negation room run low⟩
      | grouping =>
        obtain ⟨inner, run⟩ := ofExpression BindingPower.lowest.precedence cursor.advance
        cases inner with
        | error failure after => exact ⟨_, .groupingFails run⟩
        | ok tree after =>
          by_cases closed : after.current.kind = .closeParen
          case neg => exact ⟨_, .groupingUnmatched run closed⟩
          exact ⟨_, .grouping run closed⟩
    cases task with
    | expression least => exact ofExpression least cursor
    | fold least tree =>
      exact exists_run_fold (fun next cursor room => deeper room (.expression next) cursor)
        tree cursor
    | operand =>
      cases found : rules.operand cursor.current.kind with
      | none => exact ⟨_, .operandMissing found⟩
      | some rule =>
        obtain ⟨outcome, body⟩ := ofStart rule cursor
        exact ⟨outcome, .operand found body⟩
    | start rule => exact ofStart rule cursor

/-- The rules describe what the functions do, no more and no less. -/
theorem run_iff {task : Task} {depth : Nat} {cursor : Cursor} {outcome : Outcome} :
    Run rules limit task depth cursor outcome ↔
      (perform rules limit depth task).run cursor = outcome := by
  refine ⟨run_perform, ?_⟩
  rintro rfl
  obtain ⟨outcome, run⟩ := exists_run rules limit task depth cursor
  rw [run_perform run]
  exact run

theorem Run.unique {task : Task} {depth : Nat} {cursor : Cursor} {first second : Outcome}
    (one : Run rules limit task depth cursor first)
    (other : Run rules limit task depth cursor second) : first = second :=
  (run_perform one).symm.trans (run_perform other)

/-- The least precedence of the operators that a task reads outside of operands. -/
def Task.least? : Task → Option Nat
  | .expression least => some least
  | .fold least _ => some least
  | _ => none

/-- A task that ends well has read every operator that is as tight as asked for. -/
theorem Run.stops {task : Task} {depth least : Nat} {cursor after : Cursor} {outcome : Outcome}
    {tree : Expr} (run : Run rules limit task depth cursor outcome)
    (done : outcome = .ok tree after) (folds : task.least? = some least) :
    Stops rules least after := by
  induction run with
  | expression _ _ _ _ others => exact others done folds
  | foldStops loose =>
    cases done
    obtain rfl := Option.some.inj folds
    exact loose
  | fold _ _ _ _ _ _ _ _ others => exact others done folds
  | operand | number | negation | grouping => cases folds
  | expressionTooDeep | expressionFails | operandMissing | invalidNumber | negationTooDeep
  | negationFails | negationTooTall | groupingFails | groupingUnmatched | foldTooDeep
  | foldInvalid | foldFails | foldTooTall => cases done

/-- The cursor with which a piece of parsing ends. -/
def Outcome.cursor : Outcome → Cursor
  | .ok _ after => after
  | .error _ after => after

/-- A run moves its cursor by reading and noting only: what these two keep holds where it ends. -/
theorem Run.keeps {P : Cursor → Prop} {task : Task} {depth : Nat} {cursor : Cursor}
    {outcome : Outcome} (run : Run rules limit task depth cursor outcome)
    (advance : ∀ cursor, P cursor → P cursor.advance)
    (note : ∀ cursor event, P cursor → P (cursor.note event)) (start : P cursor) :
    P outcome.cursor := by
  induction run with
  | expressionTooDeep | operandMissing | negationTooDeep | foldStops | foldTooDeep => exact start
  | invalidNumber | number | foldInvalid => exact advance _ start
  | expressionFails _ _ first => exact first start
  | expression _ _ _ first others => exact others (first start)
  | operand _ _ body => exact body start
  | negationFails _ _ inside => exact inside (advance _ start)
  | negationTooTall _ _ _ inside => exact inside (advance _ start)
  | negation _ _ _ inside => exact inside (advance _ start)
  | groupingFails _ inside => exact inside (advance _ start)
  | groupingUnmatched _ _ inside => exact inside (advance _ start)
  | grouping _ _ inside => exact advance _ (inside (advance _ start))
  | foldFails _ _ _ _ _ second => exact second (advance _ start)
  | foldTooTall _ _ _ _ _ _ second => exact note _ _ (second (advance _ start))
  | fold _ _ _ _ _ _ _ second others => exact others (note _ _ (second (advance _ start)))

/-! ## Whole expressions -/

/-- What becomes of the outcome of an expression when nothing may follow it, or when what follows
is ignored. -/
def conclude (trailing : Bool) : Outcome → EStateM.Result Fault (Array Event) Expr
  | .error failure after => .error failure.fault after.log
  | .ok tree after =>
    if after.hasToken then
      if trailing then .ok tree (after.log.push (.trailing after.current.span.start))
      else .error after.unexpected after.log
    else .ok tree after.log

/-- What follows an expression does not change its tree. -/
theorem eq_ok_of_conclude {trailing : Bool} {outcome : Outcome} {tree : Expr} {log : Array Event}
    (done : conclude trailing outcome = .ok tree log) :
    ∃ after, outcome = .ok tree after ∧ (after.hasToken = true → trailing = true) := by
  cases outcome with
  | error failure after => cases done
  | ok result after =>
    simp only [conclude] at done
    split at done
    · split at done
      · rename_i ignored
        cases done
        exact ⟨after, rfl, fun _ => ignored⟩
      · cases done
    · rename_i ended
      cases done
      exact ⟨after, rfl, fun more => absurd more ended⟩

/-- The fault is that of the expression, or lies at a token after it. -/
theorem eq_error_of_conclude {trailing : Bool} {outcome : Outcome} {fault : Fault}
    {log : Array Event} (failed : conclude trailing outcome = .error fault log) :
    (∃ failure after, outcome = .error failure after ∧ fault = failure.fault) ∨
      ∃ tree after, outcome = .ok tree after ∧ fault = after.unexpected := by
  cases outcome with
  | error failure after =>
    cases failed
    exact .inl ⟨failure, after, rfl, rfl⟩
  | ok tree after =>
    simp only [conclude] at failed
    split at failed
    · split at failed
      · cases failed
      · cases failed
        exact .inr ⟨tree, after, rfl, rfl⟩
    · cases failed

variable {settings : Settings} {tokens : List Token} {log : Array Event}

theorem run_get (cursor : Cursor) : (get : Parser Cursor).run cursor = .ok cursor cursor := rfl

theorem run_parseTokens_eq : (parseTokens settings tokens).run log =
    match (wholeExpression settings).run ⟨Token.terminated tokens, log⟩ with
    | .ok tree after => .ok tree after.log
    | .error failure after => .error failure.fault after.log := rfl

/-- Without a single token there is no expression. -/
theorem run_parseTokens_of_empty (empty : Token.body tokens = []) :
    (parseTokens settings tokens).run log =
      .error ⟨.emptyExpression, ((Token.terminated tokens).headD (.finish 0)).span.start⟩ log := by
  have none : ¬ (Cursor.mk (Token.terminated tokens) log).hasToken = true := by
    rw [Cursor.hasToken_terminated_iff]
    exact fun some => some empty
  have whole : (wholeExpression settings).run ⟨Token.terminated tokens, log⟩ =
      .error ⟨⟨.emptyExpression, ((Token.terminated tokens).headD (.finish 0)).span.start⟩, 0⟩
        ⟨Token.terminated tokens, log⟩ := by
    rw [wholeExpression, run_ok (run_get _), if_neg none, run_ok (run_peek _)]
    rfl
  rw [run_parseTokens_eq, whole]

/-- Otherwise a list of tokens is parsed by reading one expression from its start. -/
theorem run_parseTokens {outcome : Outcome} (nonempty : Token.body tokens ≠ [])
    (run : Run .standard settings.maxDepth (.expression BindingPower.lowest.precedence) 0
      ⟨Token.terminated tokens, log⟩ outcome) :
    (parseTokens settings tokens).run log = conclude settings.trailing outcome := by
  have some : (Cursor.mk (Token.terminated tokens) log).hasToken = true :=
    Cursor.hasToken_terminated_iff.mpr nonempty
  have read : (expression .standard settings.maxDepth 0 BindingPower.lowest.precedence).run
      ⟨Token.terminated tokens, log⟩ = outcome := run_perform run
  rw [run_parseTokens_eq, wholeExpression, run_ok (run_get _), if_pos some]
  cases outcome with
  | error failure after =>
    rw [run_error read]
    rfl
  | ok tree after =>
    rw [run_ok read, run_ok (run_get _)]
    by_cases more : after.hasToken = true
    · cases ignored : settings.trailing with
      | true =>
        rw [if_pos more, if_pos rfl, run_ok (run_peek _), run_ok (run_note _ _)]
        simp [conclude, more, Cursor.note]
      | false =>
        rw [if_pos more, if_neg Bool.false_ne_true]
        simp [conclude, more]
    · rw [if_neg more]
      simp [conclude, more]

/-- Unless it has no token, what a list is parsed into is the outcome of a run and what becomes of
it. -/
theorem exists_run_parseTokens (settings : Settings) (nonempty : Token.body tokens ≠ [])
    (log : Array Event) :
    ∃ outcome, Run .standard settings.maxDepth (.expression BindingPower.lowest.precedence) 0
        ⟨Token.terminated tokens, log⟩ outcome ∧
      (parseTokens settings tokens).run log = conclude settings.trailing outcome := by
  obtain ⟨outcome, run⟩ := exists_run .standard settings.maxDepth
    (.expression BindingPower.lowest.precedence) 0 ⟨Token.terminated tokens, log⟩
  exact ⟨outcome, run, run_parseTokens nonempty run⟩

/-- A list that is parsed into a tree has the tree's expression at its start, and more only if that
may be. -/
theorem exists_run_of_outcome {tree : Expr}
    (parsed : (parseTokens settings tokens).outcome = .ok tree) :
    ∃ after, Run .standard settings.maxDepth (.expression BindingPower.lowest.precedence) 0
        ⟨Token.terminated tokens, #[]⟩ (.ok tree after) ∧
      (after.hasToken = true → settings.trailing = true) := by
  by_cases empty : Token.body tokens = []
  case pos =>
    rw [Calculation.outcome, run_parseTokens_of_empty empty] at parsed
    cases parsed
  obtain ⟨outcome, run, ends⟩ := exists_run_parseTokens settings empty #[]
  rw [Calculation.outcome, ends] at parsed
  cases done : conclude settings.trailing outcome with
  | error fault log =>
    rw [done] at parsed
    cases parsed
  | ok result log =>
    rw [done] at parsed
    cases parsed
    obtain ⟨after, rfl, alone⟩ := eq_ok_of_conclude done
    exact ⟨after, run, alone⟩

end Calculator.Parser

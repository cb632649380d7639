import Calculator.Expr.Session
import Calculator.Proofs.Parser.Run
import Mathlib.Logic.Relation

/-!
# The parser as a machine with a stack of calls

What the functions of the parser do, one step at a time and with the calls that are open written
out: `CallStack.step` makes a call, answers one, or goes on with the one that has waited, while a
counter of open levels goes up and down. The functions hand the number of open levels down and leave
it behind in a failure; here it is one number that all calls share.

The steps end where the functions do, for any calls that wait below (`CallStack.reaches_call`), so
what holds of every state on the way holds of the functions at work.
-/

namespace Calculator.Parser

/-! ## Calls -/

/-- The functions of the parser that call each other. -/
inductive Routine where
  | expression
  | operand
  | number
  | negation
  | grouping
  | binary
deriving DecidableEq

namespace Routine

/-- Whether a function opens a level. -/
def opensLevel : Routine → Bool
  | expression | negation | binary => true
  | operand | number | grouping => false

/-- Whether a function calls another one. -/
def Calls : Routine → Routine → Prop
  | expression, operand | expression, binary => True
  | operand, number | operand, negation | operand, grouping => True
  | negation, operand | grouping, expression | binary, expression => True
  | _, _ => False

end Routine

/-- A call of a function, with its arguments. -/
inductive Call where
  | expression (least : Nat)
  | operand
  | number
  | negation
  | grouping
  | binary (left : Expr) (power : BindingPower)

namespace Call

def routine : Call → Routine
  | expression _ => .expression
  | operand => .operand
  | number => .number
  | negation => .negation
  | grouping => .grouping
  | binary _ _ => .binary

/-- The call for an operand that starts in a given way. -/
def start : OperandRule → Call
  | .number => number
  | .negation => negation
  | .grouping => grouping

end Call

/-- A call that waits for another one, with what it needs to go on. -/
inductive Frame where
  | expression (least : Nat)
  | operand
  | negation (place : Span)
  | grouping
  | binary (sign : Sign) (left : Expr)

def Frame.routine : Frame → Routine
  | expression _ => .expression
  | operand => .operand
  | negation _ => .negation
  | grouping => .grouping
  | binary _ _ => .binary

/-- What happens next. -/
inductive Control where
  | call (call : Call)
  | returned (tree : Expr)
  | failed (fault : Fault)

/-! ## Steps -/

/-- The calls that wait, and what happens next. -/
structure CallStack where
  control : Control
  /-- The innermost call comes first. -/
  frames : List Frame
  depth : Nat
  cursor : Cursor

namespace CallStack

def fail (fault : Fault) (stack : CallStack) : CallStack := { stack with control := .failed fault }

def give (tree : Expr) (stack : CallStack) : CallStack := { stack with control := .returned tree }

/-- Makes a call and waits for it. -/
def await (frame : Frame) (call : Call) (stack : CallStack) : CallStack :=
  { stack with control := .call call, frames := frame :: stack.frames }

def next (stack : CallStack) : CallStack := { stack with cursor := stack.cursor.advance }

def note (event : Event) (stack : CallStack) : CallStack :=
  { stack with cursor := stack.cursor.note event }

def leave (stack : CallStack) : CallStack := { stack with depth := stack.depth - 1 }

/-- Opens a level and goes on inside. A level counts as open even if it is one too many. -/
def enter (limit : Nat) (body : CallStack → CallStack) (stack : CallStack) : CallStack :=
  let opened := { stack with depth := stack.depth + 1 }
  if opened.depth ≤ limit then body opened else opened.fail (stack.cursor.tooDeep limit)

/-- Answers with a tree if its height is within the limit. -/
def check (limit : Nat) (tree : Expr) (stack : CallStack) : CallStack :=
  if tree.height ≤ limit then stack.give tree else stack.fail (tooTall limit tree)

/-- What a call does before it waits or answers. -/
def begin (rules : Rules) (limit : Nat) (stack : CallStack) : Call → CallStack
  | .expression least => stack.enter limit fun opened => opened.await (.expression least) .operand
  | .operand =>
    match rules.operand stack.cursor.current.kind with
    | some rule => stack.await .operand (.start rule)
    | none => stack.fail stack.cursor.unexpected
  | .number =>
    let token := stack.cursor.current
    match Decimal.read? token.text with
    | some value => stack.next.give (.literal value token.span)
    | none => stack.next.fail ⟨.invalidNumber token.text, token.span.start⟩
  | .negation => stack.enter limit fun opened =>
    opened.next.await (.negation stack.cursor.current.span) .operand
  | .grouping => stack.next.await .grouping (.expression BindingPower.lowest.precedence)
  | .binary left power => stack.enter limit fun opened =>
    let token := stack.cursor.current
    match Operator.ofKind? token.kind with
    | some operator =>
      opened.next.await (.binary ⟨operator, token.span⟩ left) (.expression power.rightPrecedence)
    | none => opened.next.fail ⟨.invalidOperator token.text, token.span.start⟩

/-- What a call that has waited does with the tree. It waits no longer, unless it is an expression
with another operator to fold. -/
def resume (rules : Rules) (limit : Nat) (tree : Expr) (stack : CallStack) : Frame → CallStack
  | .expression least =>
    match rules.power stack.cursor.current.kind with
    | some power =>
      if power.precedence < least then stack.leave.give tree
      else stack.await (.expression least) (.binary tree power)
    | none => stack.leave.give tree
  | .operand => stack.give tree
  | .negation place => stack.leave.check limit (.unary ⟨.sub, place⟩ tree)
  | .grouping =>
    if stack.cursor.current.kind = .closeParen then stack.next.give tree
    else stack.fail ⟨.unmatchedParentheses, stack.cursor.current.span.start⟩
  | .binary sign left => ((stack.note (.folded sign)).leave).check limit (.binary sign left tree)

/-- The next state, unless nothing is left to do. A fault ends the calls that wait one by one, and
the levels that are open stay open. -/
def step (rules : Rules) (limit : Nat) (stack : CallStack) : Option CallStack :=
  match stack.control, stack.frames with
  | .call call, _ => some (stack.begin rules limit call)
  | .returned tree, frame :: frames => some ({ stack with frames }.resume rules limit tree frame)
  | .failed _, _ :: frames => some { stack with frames }
  | _, [] => none

/-- Whether one state comes some steps after another. -/
def Reaches (rules : Rules) (limit : Nat) : CallStack → CallStack → Prop :=
  Relation.ReflTransGen fun before after => step rules limit before = some after

variable {rules : Rules} {limit depth : Nat} {cursor : Cursor} {frames : List Frame}
  {start middle final : CallStack}

theorem Reaches.head (first : step rules limit start = some middle)
    (others : Reaches rules limit middle final) : Reaches rules limit start final :=
  Relation.ReflTransGen.head first others

theorem Reaches.trans (first : Reaches rules limit start middle)
    (others : Reaches rules limit middle final) : Reaches rules limit start final :=
  Relation.ReflTransGen.trans first others

theorem Reaches.refl (start : CallStack) : Reaches rules limit start start :=
  Relation.ReflTransGen.refl

theorem Reaches.single (stepped : step rules limit start = some middle) :
    Reaches rules limit start middle :=
  Relation.ReflTransGen.single stepped

/-! ## Steps end where the functions do -/

/-- The state in which a piece of parsing begins. Operators are folded by an expression, which has
waited for the tree that they are folded into. -/
def entry (task : Task) (depth : Nat) (cursor : Cursor) (frames : List Frame) : CallStack :=
  match task with
  | .expression least => ⟨.call (.expression least), frames, depth, cursor⟩
  | .fold least left => ⟨.returned left, .expression least :: frames, depth, cursor⟩
  | .operand => ⟨.call .operand, frames, depth, cursor⟩
  | .start rule => ⟨.call (.start rule), frames, depth, cursor⟩

/-- The number of levels that are open once a piece of parsing has ended well. -/
def level (task : Task) (depth : Nat) : Nat :=
  match task with
  | .fold _ _ => depth - 1
  | _ => depth

/-- The state in which a piece of parsing ends. -/
def exit (level : Nat) (frames : List Frame) : Outcome → CallStack
  | .ok tree after => ⟨.returned tree, frames, level, after⟩
  | .error failure after => ⟨.failed failure.fault, frames, failure.depth, after⟩

theorem check_low {tree : Expr} {stack : CallStack} (low : tree.height ≤ limit) :
    stack.check limit tree = stack.give tree :=
  if_pos low

theorem check_tall {tree : Expr} {stack : CallStack} (tall : limit < tree.height) :
    stack.check limit tree = stack.fail (tooTall limit tree) :=
  if_neg (Nat.not_le.mpr tall)

/-- One level too many ends every call that would open it. -/
theorem step_full {call : Call} (opens : call.routine.opensLevel = true) (full : limit ≤ depth) :
    step rules limit ⟨.call call, frames, depth, cursor⟩ =
      some ⟨.failed (cursor.tooDeep limit), frames, depth + 1, cursor⟩ := by
  cases call with
  | expression | negation | binary => exact congrArg some (if_neg (Nat.not_lt.mpr full))
  | operand | number | grouping => cases opens

theorem step_expression {least : Nat} (room : depth < limit) :
    step rules limit ⟨.call (.expression least), frames, depth, cursor⟩ =
      some ⟨.call .operand, .expression least :: frames, depth + 1, cursor⟩ :=
  congrArg some (if_pos room)

theorem step_operand {rule : OperandRule} (found : rules.operand cursor.current.kind = some rule) :
    step rules limit ⟨.call .operand, frames, depth, cursor⟩ =
      some ⟨.call (.start rule), .operand :: frames, depth, cursor⟩ := by
  simp only [step, begin, found]
  rfl

theorem step_negation (room : depth < limit) :
    step rules limit ⟨.call .negation, frames, depth, cursor⟩ =
      some ⟨.call .operand, .negation cursor.current.span :: frames, depth + 1, cursor.advance⟩ :=
  congrArg some (if_pos room)

section Binary

variable {left : Expr} {power : BindingPower} {operator : Operator}

theorem step_binary (room : depth < limit)
    (known : Operator.ofKind? cursor.current.kind = some operator) :
    step rules limit ⟨.call (.binary left power), frames, depth, cursor⟩ =
      some ⟨.call (.expression power.rightPrecedence),
        .binary ⟨operator, cursor.current.span⟩ left :: frames, depth + 1, cursor.advance⟩ := by
  refine congrArg some ((if_pos room).trans ?_)
  simp only [known]
  rfl

theorem step_binary_invalid (room : depth < limit)
    (unknown : Operator.ofKind? cursor.current.kind = none) :
    step rules limit ⟨.call (.binary left power), frames, depth, cursor⟩ =
      some ⟨.failed ⟨.invalidOperator cursor.current.text, cursor.current.span.start⟩, frames,
        depth + 1, cursor.advance⟩ := by
  refine congrArg some ((if_pos room).trans ?_)
  simp only [unknown]
  rfl

/-- What becomes of the outcome of a right operand once the operator has been folded. -/
def join (limit depth : Nat) (cursor : Cursor) (operator : Operator) (left : Expr) :
    Outcome → Outcome
  | .error failure after => .error failure after
  | .ok right after =>
    let told := after.note (.folded ⟨operator, cursor.current.span⟩)
    if (folded cursor operator left right).height ≤ limit then
      .ok (folded cursor operator left right) told
    else .error ⟨tooTall limit (folded cursor operator left right), depth⟩ told

/-- An operator is folded where its right operand ends. -/
theorem reaches_join {outcome : Outcome} (room : depth < limit)
    (known : Operator.ofKind? cursor.current.kind = some operator)
    (second : ∀ frames, Reaches rules limit
      (entry (.expression power.rightPrecedence) (depth + 1) cursor.advance frames)
      (exit (depth + 1) frames outcome)) :
    Reaches rules limit ⟨.call (.binary left power), frames, depth, cursor⟩
      (exit depth frames (join limit depth cursor operator left outcome)) := by
  refine .head (step_binary room known) ((second _).trans (.single ?_))
  cases outcome with
  | error failure after => rfl
  | ok right after =>
    refine congrArg some ?_
    by_cases low : (folded cursor operator left right).height ≤ limit
    · rw [join, if_pos low]
      exact check_low low
    · rw [join, if_neg low]
      exact check_tall (Nat.not_le.mp low)

end Binary

/-- An expression goes on with the next operator if it is tight enough. -/
theorem step_fold {least : Nat} {left : Expr} {power : BindingPower}
    (found : rules.power cursor.current.kind = some power) (tight : least ≤ power.precedence) :
    step rules limit ⟨.returned left, .expression least :: frames, depth, cursor⟩ =
      some ⟨.call (.binary left power), .expression least :: frames, depth, cursor⟩ := by
  simp only [step, resume, found, if_neg (Nat.not_lt.mpr tight)]
  rfl

theorem step_stop {least : Nat} {left : Expr} (loose : Stops rules least cursor) :
    step rules limit ⟨.returned left, .expression least :: frames, depth, cursor⟩ =
      some ⟨.returned left, frames, depth - 1, cursor⟩ := by
  simp only [step, resume]
  cases found : rules.power cursor.current.kind with
  | none => rfl
  | some power => exact congrArg some (if_pos (loose power found))

/-- Steps lead from where a piece of parsing begins to where it ends, whatever calls wait below. -/
theorem reaches_of_run {task : Task} {outcome : Outcome}
    (run : Run rules limit task depth cursor outcome) (frames : List Frame) :
    Reaches rules limit (entry task depth cursor frames)
      (exit (level task depth) frames outcome) := by
  induction run generalizing frames with
  | expressionTooDeep full => exact .single (step_full rfl full)
  | expressionFails room _ first =>
    -- a fault ends the call that has waited in one more step, here and below
    exact .head (step_expression room) ((first _).trans (.single rfl))
  | expression room _ _ first others =>
    exact .head (step_expression room) ((first _).trans (others frames))
  | operandMissing found =>
    refine .single ?_
    simp only [entry, step, begin, found]
    rfl
  | @operand _ _ _ outcome found _ body =>
    -- the call for the operand has waited, and passes on what comes back
    refine .head (step_operand found) ((body _).trans (.single ?_))
    cases outcome <;> rfl
  | invalidNumber read =>
    refine .single ?_
    simp only [entry, Call.start, step, begin, read]
    rfl
  | number read =>
    refine .single ?_
    simp only [entry, Call.start, step, begin, read]
    rfl
  | negationTooDeep full => exact .single (step_full rfl full)
  | negationFails room _ inside =>
    exact .head (step_negation room) ((inside _).trans (.single rfl))
  | negationTooTall room _ tall inside =>
    exact .head (step_negation room)
      ((inside _).trans (.single (congrArg some (check_tall tall))))
  | negation room _ low inside =>
    exact .head (step_negation room)
      ((inside _).trans (.single (congrArg some (check_low low))))
  | groupingFails _ inside => exact .head rfl ((inside _).trans (.single rfl))
  | groupingUnmatched _ unclosed inside =>
    exact .head rfl ((inside _).trans (.single (congrArg some (if_neg unclosed))))
  | grouping _ closed inside =>
    exact .head rfl ((inside _).trans (.single (congrArg some (if_pos closed))))
  | foldStops loose => exact .single (step_stop loose)
  | foldTooDeep found tight full =>
    exact .head (step_fold found tight) (.head (step_full rfl full) (.single rfl))
  | foldInvalid found tight room unknown =>
    exact .head (step_fold found tight)
      (.head (step_binary_invalid room unknown) (.single rfl))
  | foldFails found tight room known _ second =>
    exact .head (step_fold found tight)
      ((reaches_join room known second).trans (.single rfl))
  | foldTooTall found tight room known _ tall second =>
    refine .head (step_fold found tight) ((reaches_join room known second).trans ?_)
    rw [join, if_neg (Nat.not_le.mpr tall)]
    exact .single rfl
  | fold found tight room known _ low _ second others =>
    refine .head (step_fold found tight) ((reaches_join room known second).trans ?_)
    rw [join, if_pos low]
    exact others frames

/-! ## Calls of a session -/

/-- An operator and its right operand are read by reading the operand, and folded then. -/
theorem run_binary {left : Expr} {power : BindingPower} {operator : Operator} {outcome : Outcome}
    (room : depth < limit) (known : Operator.ofKind? cursor.current.kind = some operator)
    (second : (expression rules limit (depth + 1) power.rightPrecedence).run cursor.advance =
      outcome) :
    (binary rules limit depth left power).run cursor =
      join limit depth cursor operator left outcome := by
  cases outcome with
  | error failure after =>
    refine run_error ?_
    rw [rightSide, if_pos room, run_ok (run_next _), known]
    exact run_error second
  | ok right after =>
    refine (run_ok (run_rightSide room known second)).trans ?_
    by_cases low : (folded cursor operator left right).height ≤ limit
    · rw [join, if_pos low]
      exact congrArg (EStateM.run · _) (if_pos low)
    · rw [join, if_neg low]
      exact congrArg (EStateM.run · _) (if_neg low)

/-- Steps lead from a call for an operator to where the function for it ends. -/
theorem reaches_binary (left : Expr) (power : BindingPower) (frames : List Frame) :
    Reaches rules limit ⟨.call (.binary left power), frames, depth, cursor⟩
      (exit depth frames ((binary rules limit depth left power).run cursor)) := by
  by_cases full : limit ≤ depth
  case pos =>
    have ends : (binary rules limit depth left power).run cursor =
        .error ⟨cursor.tooDeep limit, depth + 1⟩ cursor := by
      refine run_error ?_
      rw [rightSide, if_neg (Nat.not_lt.mpr full)]
      rfl
    rw [ends]
    exact .single (step_full rfl full)
  have room : depth < limit := Nat.not_le.mp full
  cases known : Operator.ofKind? cursor.current.kind with
  | none =>
    have ends : (binary rules limit depth left power).run cursor =
        .error ⟨⟨.invalidOperator cursor.current.text, cursor.current.span.start⟩, depth + 1⟩
          cursor.advance := by
      refine run_error ?_
      rw [rightSide, if_pos room, run_ok (run_next _), known]
      rfl
    rw [ends]
    exact .single (step_binary_invalid room known)
  | some operator =>
    obtain ⟨outcome, run⟩ := exists_run rules limit (.expression power.rightPrecedence)
      (depth + 1) cursor.advance
    have second : (expression rules limit (depth + 1) power.rightPrecedence).run cursor.advance =
        outcome := run_perform run
    rw [run_binary room known second]
    exact reaches_join room known (reaches_of_run run)

end CallStack

/-- The function that a call is of, with its arguments. -/
def Call.function (rules : Rules) (limit depth : Nat) : Call → Parser Expr
  | expression least => Parser.expression rules limit depth least
  | operand => Parser.operand rules limit depth
  | number => Parser.number depth
  | negation => Parser.negation rules limit depth
  | grouping => Parser.grouping rules limit depth
  | binary left power => Parser.binary rules limit depth left power

/-- The action of a session that makes a call. -/
def Call.action : Call → Session.Action
  | expression least => .expression least
  | operand => .operand
  | number => .number
  | negation => .negation
  | grouping => .grouping
  | binary left power => .binary left power

theorem act_action (session : Session) (call : Call) : session.act call.action =
    session.parse (call.function session.rules session.limit session.depth) := by
  cases call <;> rfl

/-- What a session replies when nothing is left to do. -/
def Control.reply : Control → Option (Except Fault Session.Reply)
  | call _ => none
  | returned tree => some (.ok (.tree tree))
  | failed fault => some (.error fault)

namespace CallStack

theorem reaches_perform (rules : Rules) (limit depth : Nat) (cursor : Cursor) (task : Task)
    (frames : List Frame) :
    Reaches rules limit (entry task depth cursor frames)
      (exit (level task depth) frames ((perform rules limit depth task).run cursor)) :=
  reaches_of_run (run_iff.mpr rfl) frames

/-- Every call ends as its function does. -/
theorem reaches_call (rules : Rules) (limit depth : Nat) (cursor : Cursor) (call : Call)
    (frames : List Frame) :
    Reaches rules limit ⟨.call call, frames, depth, cursor⟩
      (exit depth frames ((call.function rules limit depth).run cursor)) := by
  cases call with
  | expression least => exact reaches_perform rules limit depth cursor (.expression least) frames
  | operand => exact reaches_perform rules limit depth cursor .operand frames
  | number => exact reaches_perform rules limit depth cursor (.start .number) frames
  | negation => exact reaches_perform rules limit depth cursor (.start .negation) frames
  | grouping => exact reaches_perform rules limit depth cursor (.start .grouping) frames
  | binary left power => exact reaches_binary left power frames

/-- Nothing is left to do where a call ends that no other waits for. -/
theorem step_exit (rules : Rules) (limit level : Nat) (outcome : Outcome) :
    step rules limit (exit level [] outcome) = none := by
  cases outcome <;> rfl

/-- A session replies what is returned, and keeps the place and the counter. -/
theorem parse_eq (session : Session) (function : Parser Expr) :
    let final := exit session.depth [] (function.run session.cursor)
    final.control.reply = some (session.parse function).1 ∧
      (session.parse function).2 =
        { session with cursor := final.cursor, depth := final.depth } := by
  unfold Session.parse
  cases function.run session.cursor <;> exact ⟨rfl, rfl⟩

end CallStack

end Calculator.Parser

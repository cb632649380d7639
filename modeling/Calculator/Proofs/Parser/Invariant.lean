import Calculator.Proofs.Parser.Nesting
import Calculator.Proofs.Token.Body

/-!
# What a session never breaks

A session can be asked for anything at any time, also where an earlier action has failed. Its
actions move the cursor only by reading on, and reading stops at the first mark for the end of the
input: so the cursor is always at one of the tokens that the session was given, at that mark or
before it, and does not go back (`Session.follows_through`). What reading keeps holds wherever a call
is at work, too (`CallStack.Reaches.keeps`).

A session has one table for what stands between two operands, though an operator is registered
twice, with a way to fold it and with its binding power. Since both are always registered together,
nothing is lost (`Tables.rules_through`).
-/

namespace Calculator

/-! ## Places -/

namespace Cursor

/-- The number of tokens of a list that a cursor has moved past. -/
def index (given : List Token) (cursor : Cursor) : Nat := given.length - cursor.rest.length

/-- Whether a cursor stands at a token of a list that is within reach: at the first mark for the end
of the input or before it. -/
structure Within (given : List Token) (cursor : Cursor) : Prop where
  rest : given.drop (cursor.index given) = cursor.rest
  /-- There is a token at the index, and it is the current one. -/
  current : given[cursor.index given]? = some cursor.current
  reach : cursor.index given ≤ given.findIdx fun token => token.kind == .endOfInput

/-- Whether a cursor is where another one may have come by reading tokens of a list. -/
structure Follows (given : List Token) (before after : Cursor) : Prop where
  within : after.Within given
  forward : before.index given ≤ after.index given
  stays : before.current.kind = .endOfInput → after.current = before.current

variable {given beyond : List Token} {mark : Token} {cursor before after : Cursor}

/-- A cursor at the end of the input stands at the first mark. -/
theorem Within.index_eq (within : cursor.Within given)
    (ending : cursor.current.kind = .endOfInput) :
    cursor.index given = given.findIdx fun token => token.kind == .endOfInput := by
  obtain ⟨inside, here⟩ := List.getElem?_eq_some_iff.mp within.current
  refine Nat.le_antisymm within.reach (Nat.le_of_not_lt fun early => ?_)
  have word := List.not_of_lt_findIdx early
  rw [here, ending] at word
  cases word

theorem Follows.of_within (start : before.Within given) (within : after.Within given)
    (forward : before.index given ≤ after.index given) : before.Follows given after := by
  refine ⟨within, forward, fun ending => ?_⟩
  have same : after.index given = before.index given :=
    Nat.le_antisymm (start.index_eq ending ▸ within.reach) forward
  have current := within.current
  rw [same, start.current] at current
  exact (Option.some.inj current).symm

/-- Whether a cursor has read some of the tokens `origin`, but none of `stop`. -/
def Between (stop origin : List Token) (cursor : Cursor) : Prop :=
  stop <:+ cursor.rest ∧ cursor.rest <:+ origin

/-- Reading stops at a mark. -/
theorem Between.advance (ending : mark.kind = .endOfInput) {origin : List Token} (cursor : Cursor)
    (between : cursor.Between (mark :: beyond) origin) :
    cursor.advance.Between (mark :: beyond) origin :=
  ⟨suffix_advance_of_mark ending between.1, cursor.advance_suffix.trans between.2⟩

theorem Between.note {stop origin : List Token} (cursor : Cursor) (event : Event)
    (between : cursor.Between stop origin) : (cursor.note event).Between stop origin := between

theorem Between.refl {stop origin : List Token} (between : cursor.Between stop origin) :
    cursor.Between stop cursor.rest :=
  ⟨between.1, List.suffix_refl _⟩

theorem Between.trans {stop origin : List Token} (first : before.Between stop origin)
    (others : after.Between stop before.rest) : after.Between stop origin :=
  ⟨others.1, others.2.trans first.2⟩

/-- A cursor that has not read the first mark of a list stands at one of its tokens. -/
theorem Between.within (split : given = Token.body given ++ mark :: beyond)
    (between : cursor.Between (mark :: beyond) given) : cursor.Within given := by
  obtain ⟨ahead, behind⟩ := between
  have rest : given.drop (cursor.index given) = cursor.rest :=
    (List.suffix_iff_eq_drop.mp behind).symm
  refine ⟨rest, ?_, ?_⟩
  · obtain ⟨token, others, more⟩ := List.exists_cons_of_ne_nil
      (List.ne_nil_of_mem (ahead.mem List.mem_cons_self))
    rw [← List.head?_drop, rest, Cursor.current, more]
    rfl
  · have most := congrArg List.length split
    have least := ahead.length_le
    rw [List.length_append] at most
    rw [Token.findIdx_eq_length_body, index]
    omega

theorem Between.follows (split : given = Token.body given ++ mark :: beyond)
    (first : before.Between (mark :: beyond) given)
    (others : after.Between (mark :: beyond) before.rest) : before.Follows given after :=
  .of_within (first.within split) ((first.trans others).within split)
    (Nat.sub_le_sub_left others.2.length_le given.length)

end Cursor

/-! ## Steps of a call -/

namespace Parser.CallStack

variable {rules : Rules} {limit : Nat} {before after : CallStack}

theorem cursor_check (limit : Nat) (tree : Expr) (stack : CallStack) :
    (stack.check limit tree).cursor = stack.cursor := by
  unfold check
  split <;> rfl

/-- A call moves past one token at most before it waits or answers. -/
theorem cursor_begin (rules : Rules) (limit : Nat) (stack : CallStack) (call : Call) :
    (stack.begin rules limit call).cursor = stack.cursor ∨
      (stack.begin rules limit call).cursor = stack.cursor.advance := by
  cases call with
  | expression =>
    simp only [begin, enter]
    split <;> exact .inl rfl
  | operand =>
    simp only [begin]
    split <;> exact .inl rfl
  | number =>
    simp only [begin]
    split <;> exact .inr rfl
  | negation =>
    simp only [begin, enter]
    split
    · exact .inr rfl
    · exact .inl rfl
  | grouping => exact .inr rfl
  | binary =>
    simp only [begin, enter]
    split
    · split <;> exact .inr rfl
    · exact .inl rfl

/-- A call that has waited moves past a closing parenthesis, or tells that it has folded. -/
theorem cursor_resume (rules : Rules) (limit : Nat) (tree : Expr) (stack : CallStack)
    (frame : Frame) :
    (stack.resume rules limit tree frame).cursor = stack.cursor ∨
      (stack.resume rules limit tree frame).cursor = stack.cursor.advance ∨
      ∃ event, (stack.resume rules limit tree frame).cursor = stack.cursor.note event := by
  cases frame with
  | expression =>
    simp only [resume]
    split
    · split <;> exact .inl rfl
    · exact .inl rfl
  | operand => exact .inl rfl
  | negation => exact .inl (cursor_check limit _ _)
  | grouping =>
    simp only [resume]
    split
    · exact .inr (.inl rfl)
    · exact .inl rfl
  | binary sign => exact .inr (.inr ⟨.folded sign, cursor_check limit _ _⟩)

/-- What a step can do to the cursor. -/
theorem cursor_of_step (stepped : step rules limit before = some after) :
    after.cursor = before.cursor ∨ after.cursor = before.cursor.advance ∨
      ∃ event, after.cursor = before.cursor.note event := by
  obtain ⟨control, frames, depth, cursor⟩ := before
  match control, frames with
  | .call call, frames =>
    cases stepped
    rcases cursor_begin rules limit ⟨.call call, frames, depth, cursor⟩ call with same | read
    · exact .inl same
    · exact .inr (.inl read)
  | .returned tree, [] => cases stepped
  | .returned tree, frame :: frames =>
    cases stepped
    exact cursor_resume rules limit tree ⟨.returned tree, frames, depth, cursor⟩ frame
  | .failed fault, [] => cases stepped
  | .failed fault, frame :: frames =>
    cases stepped
    exact .inl rfl

/-- The steps of a call move its cursor by reading and noting only: what these two keep holds of
every state on the way. -/
theorem Reaches.keeps {P : Cursor → Prop} (reaches : Reaches rules limit before after)
    (advance : ∀ cursor, P cursor → P cursor.advance)
    (note : ∀ cursor event, P cursor → P (cursor.note event)) (start : P before.cursor) :
    P after.cursor := by
  induction reaches with
  | refl => exact start
  | tail _ stepped ih =>
    rcases cursor_of_step stepped with same | read | ⟨event, noted⟩
    · rwa [same]
    · rw [read]
      exact advance _ ih
    · rw [noted]
      exact note _ event ih

/-- A call leaves the cursor of a session where its last step does. -/
theorem exists_reaches_act (session : Session) (call : Call) :
    ∃ final, Reaches session.rules session.limit (ofSession session call) final ∧
      (session.act call.action).2.cursor = final.cursor := by
  refine ⟨_, reaches_call session.rules session.limit session.depth session.cursor call [], ?_⟩
  obtain ⟨-, left⟩ := parse_eq session
    (call.function session.rules session.limit session.depth)
  rw [act_action, left]

end Parser.CallStack

/-! ## Steps of a session -/

namespace Session

/-- What can be done between two looks at a session. -/
inductive Step where
  | act (action : Action)
  /-- Work out the value of a tree. No session is asked for it. -/
  | evaluate (tree : Expr)

/-- The session after a step, be it a success or not. -/
def take (session : Session) : Step → Session
  | .act action => (session.act action).2
  | .evaluate _ => session

def through (session : Session) (steps : List Step) : Session := steps.foldl take session

/-- No function of the parser registers anything. -/
theorem rules_parse (session : Session) (parser : Parser Expr) :
    (session.parse parser).2.rules = session.rules := by
  unfold parse
  split <;> rfl

section Keeps

variable {P : Cursor → Prop} (advance : ∀ cursor, P cursor → P cursor.advance)
  (note : ∀ cursor event, P cursor → P (cursor.note event)) {session : Session}

include advance note

/-- An action moves the cursor by reading and noting only. -/
theorem act_keeps (start : P session.cursor) (action : Action) :
    P (session.act action).2.cursor := by
  have call (call : Parser.Call) : P (session.act call.action).2.cursor := by
    obtain ⟨final, reaches, same⟩ := Parser.CallStack.exists_reaches_act session call
    rw [same]
    exact reaches.keeps advance note start
  cases action with
  | advance => exact advance _ start
  | enter =>
    simp only [act, enter]
    split <;> exact start
  | leave | addOperand | addOperator => exact start
  | expression least => exact call (.expression least)
  | operand => exact call .operand
  | number => exact call .number
  | negation => exact call .negation
  | grouping => exact call .grouping
  | binary left power => exact call (.binary left power)
  | checkHeight tree =>
    simp only [act, parse, Parser.checkHeight]
    by_cases low : tree.height ≤ session.limit
    · rw [if_pos low]
      exact start
    · rw [if_neg low]
      exact start

theorem through_keeps (start : P session.cursor) (steps : List Step) :
    P (session.through steps).cursor := by
  induction steps generalizing session with
  | nil => exact start
  | cons step steps ih =>
    cases step with
    | act action => exact ih (act_keeps advance note start action)
    | evaluate tree => exact ih start

end Keeps

end Session

/-! ## Tables -/

/-- The ways in which a token that stands between two operands can be folded with them. -/
inductive OperatorRule where
  /-- The token is an operator, and its right operand follows. -/
  | binary

/-- What is registered for each kind of token, in a table for each sort of entry. -/
structure Tables where
  operand : Token.Kind → Option OperandRule
  operator : Token.Kind → Option OperatorRule
  power : Token.Kind → Option BindingPower

namespace Tables

def empty : Tables := ⟨fun _ => none, fun _ => none, fun _ => none⟩

def addOperand (tables : Tables) (kind : Token.Kind) (rule : OperandRule) : Tables :=
  { tables with operand := fun other => if other = kind then some rule else tables.operand other }

/-- Both the binding power and the way to fold an operator are registered. -/
def addOperator (tables : Tables) (kind : Token.Kind) (power : BindingPower) : Tables :=
  { tables with
    power := fun other => if other = kind then some power else tables.power other
    operator := fun other => if other = kind then some .binary else tables.operator other }

/-- The rules that the tables make. A token stands between two operands if it has an entry in both
tables for operators. -/
def rules (tables : Tables) : Rules where
  operand := tables.operand
  power kind :=
    match tables.power kind, tables.operator kind with
    | some power, some .binary => some power
    | _, _ => none

/-- The tables after a step of a session. -/
def take (tables : Tables) : Session.Step → Tables
  | .act (.addOperand kind rule) => tables.addOperand kind rule
  | .act (.addOperator kind power) => tables.addOperator kind power
  | _ => tables

def through (tables : Tables) (steps : List Session.Step) : Tables := steps.foldl take tables

/-- Whether the same kinds of token have an entry in both tables for operators. -/
def Paired (tables : Tables) : Prop :=
  ∀ kind, (tables.operator kind).isSome = (tables.power kind).isSome

variable {tables : Tables}

theorem rules_addOperator (tables : Tables) (kind : Token.Kind) (power : BindingPower) :
    (tables.addOperator kind power).rules = tables.rules.addOperator kind power := by
  refine congrArg (Rules.mk tables.operand) (funext fun other => ?_)
  by_cases same : other = kind
  · simp only [addOperator, if_pos same]
  · simp only [addOperator, rules, if_neg same]

theorem Paired.addOperator (paired : tables.Paired) (kind : Token.Kind) (power : BindingPower) :
    (tables.addOperator kind power).Paired := by
  intro other
  by_cases same : other = kind
  · simp only [Tables.addOperator, if_pos same, Option.isSome_some]
  · simp only [Tables.addOperator, if_neg same]
    exact paired other

/-- Nothing but a registration changes the rules of a session. -/
theorem rules_take {session : Session} (same : session.rules = tables.rules) (step : Session.Step) :
    (session.take step).rules = (tables.take step).rules := by
  cases step with
  | evaluate tree => exact same
  | act action =>
    cases action with
    | addOperand kind rule => exact congrArg (Rules.addOperand · kind rule) same
    | addOperator kind power =>
      exact (congrArg (Rules.addOperator · kind power) same).trans
        (rules_addOperator tables kind power).symm
    | advance | leave => exact same
    | enter =>
      simp only [Session.take, Session.act, Session.enter]
      split <;> exact same
    | expression | operand | number | negation | grouping | binary | checkHeight =>
      exact (Session.rules_parse session _).trans same

theorem Paired.take (paired : tables.Paired) (step : Session.Step) : (tables.take step).Paired := by
  unfold Tables.take
  split
  · exact paired
  · exact paired.addOperator _ _
  · exact paired

theorem rules_through {session : Session} (same : session.rules = tables.rules)
    (steps : List Session.Step) : (session.through steps).rules = (tables.through steps).rules := by
  induction steps generalizing session tables with
  | nil => exact same
  | cons step steps ih => exact ih (rules_take same step)

theorem Paired.through (paired : tables.Paired) (steps : List Session.Step) :
    (tables.through steps).Paired := by
  induction steps generalizing tables with
  | nil => exact paired
  | cons step steps ih => exact ih (paired.take step)

/-- What is registered before a whole expression is parsed: the five operators, and the three ways
to start an operand. -/
def standardSteps : List Session.Step :=
  ([.add, .sub, .mul, .div, .pow].map fun operator : Operator =>
    .act (.addOperator operator.kind operator.power)) ++
  [.number, .negation, .grouping].map fun rule : OperandRule => .act (.addOperand rule.kind rule)

/-- The standard rules come about step by step. -/
theorem through_standardSteps (settings : Settings) (tokens : List Token) :
    (Session.start settings .empty tokens).through standardSteps =
      .start settings .standard tokens := by
  have operand : ((Session.start settings .empty tokens).through standardSteps).rules =
      Rules.standard := by
    rw [@rules_through empty _ rfl]
    refine congr (congrArg Rules.mk (funext fun kind => ?_)) (funext fun kind => ?_) <;>
      cases kind <;> rfl
  exact congrArg (fun rules => { Session.start settings .empty tokens with rules }) operand

end Tables

open Parser.CallStack in
/-- Whatever tokens a session is given, and whatever is done with it, successfully or not: the tokens
stay as they are, but for a mark that is added for the end of the input if the last one is none. The
cursor stands at one of them, at the first mark or before it; it does not go back, and once it
stands at a mark it stays there. So it is wherever a call is at work, too. And the table of the
operators and the table of their binding powers, which the rules of the session are made of, always
have entries for the same kinds of token. -/
theorem Session.follows_through (settings : Settings) (tokens : List Token)
    (before more : List Session.Step) :
    let given := Token.terminated tokens
    let session := (Session.start settings .empty tokens).through before
    let tables := Tables.empty.through before
    (given = if tokens.getLast?.map Token.kind = some .endOfInput then tokens
      else tokens ++ [Token.finish ((tokens.getLast?.map fun last => last.span.stop).getD 0)]) ∧
    session.cursor.Within given ∧
    session.cursor.Follows given (session.through more).cursor ∧
    (∀ call stack after, Reaches session.rules session.limit (.ofSession session call) stack →
      Reaches session.rules session.limit stack after →
        session.cursor.Follows given stack.cursor ∧ stack.cursor.Follows given after.cursor) ∧
    session.rules = tables.rules ∧
    ∀ kind, (tables.operator kind).isSome = (tables.power kind).isSome := by
  intro given session tables
  obtain ⟨mark, beyond, ending, split⟩ := Token.terminated_eq tokens
  rw [← Token.body_terminated] at split
  have start : (Session.start settings .empty tokens).cursor.Between (mark :: beyond) given :=
    ⟨⟨_, split.symm⟩, List.suffix_refl _⟩
  have here : session.cursor.Between (mark :: beyond) given :=
    Session.through_keeps (Cursor.Between.advance ending) Cursor.Between.note start before
  refine ⟨Token.terminated_eq_ite tokens, here.within split, ?_, ?_, ?_, ?_⟩
  · exact here.follows split
      (Session.through_keeps (Cursor.Between.advance ending) Cursor.Between.note here.refl more)
  · intro call stack after reaches further
    have inside : stack.cursor.Between (mark :: beyond) session.cursor.rest :=
      reaches.keeps (Cursor.Between.advance ending) Cursor.Between.note here.refl
    have later : after.cursor.Between (mark :: beyond) stack.cursor.rest :=
      further.keeps (Cursor.Between.advance ending) Cursor.Between.note inside.refl
    exact ⟨here.follows split inside, (here.trans inside).follows split later⟩
  · exact Tables.rules_through rfl before
  · exact Tables.Paired.through (fun kind => rfl) before

-- Behind a mark in the middle nothing is read, not even by what reads any token as a parenthesis.
example :
    let given : List Token := [⟨.dash, "-", ⟨0, 1⟩⟩, .finish 1, ⟨.number, "2", ⟨1, 2⟩⟩]
    ((Session.start {} .standard given).through
      [.act .operand, .act .grouping, .act .advance]).cursor.index (Token.terminated given) = 1 := by
  decide +kernel

end Calculator

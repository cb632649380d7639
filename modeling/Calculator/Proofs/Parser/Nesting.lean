import Calculator.Proofs.Parser.CallStack
import Mathlib.Data.List.Chain

/-!
# How deep calls nest

Every call of a session ends, whatever its rules are (`calls_end`). The number of tokens does not
see to this, because an operand may start at the end of the input, which is never moved past: calls
can nest without a token being read. But calls that nest without end would open a level time and
again, and the counter bounds these. And the end of the input is no operator under any rules, so an
expression that goes on with an operator has moved the cursor.

`Moves` says what one step can do, and what holds of every state on the way is derived from it.
-/

namespace Calculator.Parser

namespace CallStack

variable {rules : Rules} {limit depth : Nat} {cursor : Cursor} {frames : List Frame}
  {start middle final : CallStack}

/-! ## What a step does -/

/-- The functions at work, the innermost first: those of the calls that wait, and the one that is
called next. -/
def calls (stack : CallStack) : List Routine :=
  match stack.control with
  | .call call => call.routine :: stack.frames.map Frame.routine
  | _ => stack.frames.map Frame.routine

/-- The number of calls that have a level open. -/
def levels (frames : List Frame) : Nat := (frames.map Frame.routine).countP Routine.opensLevel

theorem levels_cons (frame : Frame) (frames : List Frame) :
    levels (frame :: frames) = levels frames + if frame.routine.opensLevel then 1 else 0 :=
  List.countP_cons

/-- The calls that wait are among all that are open. -/
theorem frames_suffix_calls (stack : CallStack) :
    stack.frames.map Frame.routine <:+ stack.calls := by
  unfold calls
  split
  · exact List.suffix_cons _ _
  · exact List.suffix_refl _

/-- What a step can do to the calls that wait, to the counter and to the cursor. -/
inductive Moves (limit : Nat) : CallStack → CallStack → Prop where
  /-- A function calls another one and waits. -/
  | descend {call inner : Call} {frame : Frame} {frames : List Frame} {depth : Nat}
      {cursor after : Cursor} (same : frame.routine = call.routine)
      (calls : call.routine.Calls inner.routine)
      (room : call.routine.opensLevel = true → depth + 1 ≤ limit)
      (behind : after.rest <:+ cursor.rest)
      (read : call.routine = .binary → ∃ token, cursor.rest = token :: after.rest) :
      Moves limit ⟨.call call, frames, depth, cursor⟩
        ⟨.call inner, frame :: frames, depth + if call.routine.opensLevel then 1 else 0, after⟩
  /-- An expression goes on with an operator. -/
  | fold {left : Expr} {least : Nat} {power : BindingPower} {frames : List Frame} {depth : Nat}
      {cursor : Cursor} :
      Moves limit ⟨.returned left, .expression least :: frames, depth, cursor⟩
        ⟨.call (.binary left power), .expression least :: frames, depth, cursor⟩
  /-- A number is answered at once. -/
  | answer {tree : Expr} {frames : List Frame} {depth : Nat} {cursor : Cursor} :
      Moves limit ⟨.call .number, frames, depth, cursor⟩
        ⟨.returned tree, frames, depth, cursor.advance⟩
  /-- A call that has waited is over. -/
  | ascend {tree result : Expr} {frame : Frame} {frames : List Frame} {depth : Nat}
      {cursor after : Cursor} (behind : after.rest <:+ cursor.rest) :
      Moves limit ⟨.returned tree, frame :: frames, depth, cursor⟩
        ⟨.returned result, frames, depth - if frame.routine.opensLevel then 1 else 0, after⟩
  | fail {control : Control} {fault : Fault} {frames left : List Frame} {depth later : Nat}
      {cursor after : Cursor} (ended : left <:+ frames) (behind : after.rest <:+ cursor.rest) :
      Moves limit ⟨control, frames, depth, cursor⟩ ⟨.failed fault, left, later, after⟩

theorem moves_of_begin {call : Call} {after : CallStack}
    (stepped : step rules limit ⟨.call call, frames, depth, cursor⟩ = some after) :
    Moves limit ⟨.call call, frames, depth, cursor⟩ after := by
  by_cases full : call.routine.opensLevel = true ∧ limit ≤ depth
  case pos =>
    rw [step_full full.1 full.2] at stepped
    cases stepped
    exact .fail (List.suffix_refl _) (List.suffix_refl _)
  have room (opens : call.routine.opensLevel = true) : depth < limit :=
    Nat.not_le.mp fun less => full ⟨opens, less⟩
  cases call with
  | expression least =>
    rw [step_expression (room rfl)] at stepped
    cases stepped
    exact .descend rfl trivial room (List.suffix_refl _) (by rintro ⟨⟩)
  | operand =>
    cases found : rules.operand cursor.current.kind with
    | none =>
      simp only [step, begin, found] at stepped
      cases stepped
      exact .fail (List.suffix_refl _) (List.suffix_refl _)
    | some rule =>
      rw [step_operand found] at stepped
      cases stepped
      refine .descend rfl ?_ (by rintro ⟨⟩) (List.suffix_refl _) (by rintro ⟨⟩)
      cases rule <;> trivial
  | number =>
    cases read : Decimal.read? cursor.current.text with
    | none =>
      simp only [step, begin, read] at stepped
      cases stepped
      exact .fail (List.suffix_refl _) cursor.advance_suffix
    | some value =>
      simp only [step, begin, read] at stepped
      cases stepped
      exact .answer
  | negation =>
    rw [step_negation (room rfl)] at stepped
    cases stepped
    exact .descend rfl trivial room cursor.advance_suffix (by rintro ⟨⟩)
  | grouping =>
    cases stepped
    exact .descend rfl trivial (by rintro ⟨⟩) cursor.advance_suffix (by rintro ⟨⟩)
  | binary left power =>
    cases known : Operator.ofKind? cursor.current.kind with
    | none =>
      rw [step_binary_invalid (room rfl) known] at stepped
      cases stepped
      exact .fail (List.suffix_refl _) cursor.advance_suffix
    | some operator =>
      rw [step_binary (room rfl) known] at stepped
      cases stepped
      have written : cursor.current.kind = operator.kind := Operator.ofKind?_eq_some_iff.mp known
      have word : cursor.current.kind ≠ .endOfInput := by
        rw [written]
        exact operator.kind_ne_endOfInput
      exact .descend rfl trivial room cursor.advance_suffix
        fun _ => ⟨cursor.current, Cursor.rest_eq word⟩

theorem moves_of_check {tree result : Expr} {frame : Frame} {after : Cursor}
    (behind : after.rest <:+ cursor.rest) :
    Moves limit ⟨.returned tree, frame :: frames, depth, cursor⟩
      (check limit result ⟨.returned tree, frames,
        depth - if frame.routine.opensLevel then 1 else 0, after⟩) := by
  by_cases low : result.height ≤ limit
  · rw [check_low low]
    exact .ascend behind
  · rw [check_tall (Nat.not_le.mp low)]
    exact .fail (List.suffix_cons frame frames) behind

theorem moves_of_resume {tree : Expr} {frame : Frame} {after : CallStack}
    (stepped : step rules limit ⟨.returned tree, frame :: frames, depth, cursor⟩ = some after) :
    Moves limit ⟨.returned tree, frame :: frames, depth, cursor⟩ after := by
  cases frame with
  | expression least =>
    by_cases loose : Stops rules least cursor
    case pos =>
      rw [step_stop loose] at stepped
      cases stepped
      exact .ascend (List.suffix_refl _)
    simp only [Stops, not_forall, exists_prop, Nat.not_lt] at loose
    obtain ⟨power, found, tight⟩ := loose
    rw [step_fold found tight] at stepped
    cases stepped
    exact .fold
  | operand =>
    cases stepped
    exact .ascend (List.suffix_refl _)
  | negation place =>
    cases stepped
    exact moves_of_check (List.suffix_refl _)
  | grouping =>
    by_cases closed : cursor.current.kind = .closeParen
    · simp only [step, resume, if_pos closed] at stepped
      cases stepped
      exact .ascend cursor.advance_suffix
    · simp only [step, resume, if_neg closed] at stepped
      cases stepped
      exact .fail (List.suffix_cons _ _) (List.suffix_refl _)
  | binary sign left =>
    cases stepped
    exact moves_of_check (List.suffix_refl _)

/-- A step does one of these things, whatever the rules are. -/
theorem moves_of_step {before after : CallStack} (stepped : step rules limit before = some after) :
    Moves limit before after := by
  obtain ⟨control, frames, depth, cursor⟩ := before
  match control, frames with
  | .call call, frames => exact moves_of_begin stepped
  | .returned tree, [] => cases stepped
  | .returned tree, frame :: frames => exact moves_of_resume stepped
  | .failed fault, [] => cases stepped
  | .failed fault, frame :: frames =>
    cases stepped
    exact .fail (List.suffix_cons frame frames) (List.suffix_refl _)

/-! ## Every state on the way -/

/-- What holds of every state that is reached while `base` levels are open around it. -/
structure Nested (limit base : Nat) (stack : CallStack) : Prop where
  chain : stack.calls.IsChain fun inner outer => outer.Calls inner
  within : levels stack.frames = 0 ∨ base + levels stack.frames ≤ limit
  depth : (∀ fault, stack.control ≠ .failed fault) → stack.depth = base + levels stack.frames

variable {base : Nat} {before after : CallStack}

/-- A step keeps all of this. -/
theorem Nested.moves (nested : Nested limit base before) (moves : Moves limit before after) :
    Nested limit base after := by
  obtain ⟨chain, within, counted⟩ := nested
  cases moves with
  | @descend call inner frame frames depth cursor after same calls room =>
    have known : depth = base + levels frames := counted nofun
    have more := levels_cons frame frames
    rw [same] at more
    refine ⟨?_, ?_, fun _ => ?_⟩
    · have nested : (call.routine :: frames.map Frame.routine).IsChain _ := chain
      rw [← same] at nested calls
      exact List.isChain_cons_cons.mpr ⟨calls, nested⟩
    · show levels (frame :: frames) = 0 ∨ base + levels (frame :: frames) ≤ limit
      rw [more]
      split
      · rename_i opens
        have := room opens
        omega
      · exact within
    · show depth + _ = base + levels (frame :: frames)
      omega
  | fold => exact ⟨List.isChain_cons_cons.mpr ⟨trivial, chain⟩, within, fun _ => counted nofun⟩
  | answer => exact ⟨chain.tail, within, fun _ => counted nofun⟩
  | @ascend tree result frame frames depth cursor after =>
    have known : depth = base + levels (frame :: frames) := counted nofun
    have fits : levels (frame :: frames) = 0 ∨ base + levels (frame :: frames) ≤ limit := within
    have more := levels_cons frame frames
    refine ⟨chain.tail, ?_, fun _ => ?_⟩
    · show levels frames = 0 ∨ base + levels frames ≤ limit
      omega
    · show depth - _ = base + levels frames
      omega
  | @fail control fault frames left depth later cursor after ended behind =>
    have fits : levels frames = 0 ∨ base + levels frames ≤ limit := within
    have fewer : levels left ≤ levels frames := (ended.map Frame.routine).sublist.countP_le
    refine ⟨?_, ?_, fun running => absurd rfl (running fault)⟩
    · have waiting := frames_suffix_calls ⟨control, frames, depth, cursor⟩
      exact chain.suffix ((ended.map Frame.routine).trans waiting)
    · show levels left = 0 ∨ base + levels left ≤ limit
      omega

theorem Nested.reaches (nested : Nested limit base before)
    (reaches : Reaches rules limit before after) : Nested limit base after := by
  induction reaches with
  | refl => exact nested
  | tail _ stepped ih => exact ih.moves (moves_of_step stepped)

/-- At most one call more than there were levels left has opened a level or is about to. -/
theorem Nested.countP_calls_le {stack : CallStack} (nested : Nested limit base stack) :
    stack.calls.countP Routine.opensLevel ≤ limit - base + 1 := by
  have waiting : levels stack.frames ≤ limit - base := by
    have := nested.within
    omega
  have most : stack.calls.countP Routine.opensLevel ≤ levels stack.frames + 1 := by
    unfold calls
    split
    · rw [List.countP_cons, levels]
      split <;> omega
    · exact Nat.le_succ _
  omega

/-- A group is read by an expression, so there is one between a group and the next one inside. -/
theorem Nested.expression_mem {stack : CallStack} (nested : Nested limit base stack)
    {above between below : List Routine}
    (split : stack.calls = above ++ .grouping :: between ++ .grouping :: below) :
    .expression ∈ between := by
  have chain := nested.chain
  rw [split, List.append_assoc, List.cons_append] at chain
  have inner := (List.isChain_append.mp chain).2.1
  cases between using List.reverseRecOn with
  | nil => exact absurd (List.isChain_cons_cons.mp inner).1 id
  | append_singleton others last =>
    rw [List.append_assoc, ← List.cons_append] at inner
    have calls : Routine.grouping.Calls last :=
      (List.isChain_cons_cons.mp (List.isChain_append.mp inner).2.1).1
    cases last with
    | expression => exact List.mem_append_right _ List.mem_cons_self
    | operand | number | negation | grouping | binary => exact calls.elim

theorem Moves.suffix (moves : Moves limit before after) :
    after.cursor.rest <:+ before.cursor.rest := by
  cases moves with
  | descend _ _ _ behind => exact behind
  | fold => exact List.suffix_refl _
  | answer => exact Cursor.advance_suffix _
  | ascend behind => exact behind
  | fail _ behind => exact behind

/-- Tokens that have been read stay read. -/
theorem Reaches.suffix (reaches : Reaches rules limit before after) :
    after.cursor.rest <:+ before.cursor.rest := by
  induction reaches with
  | refl => exact List.suffix_refl _
  | tail _ stepped ih => exact (moves_of_step stepped).suffix.trans ih

/-- Nothing goes on after a fault. -/
theorem Reaches.failed {fault : Fault} (reaches : Reaches rules limit before after)
    (failed : before.control = .failed fault) : after.control = .failed fault := by
  induction reaches with
  | refl => exact failed
  | @tail middle after _ stepped ih =>
    obtain ⟨control, frames, depth, cursor⟩ := middle
    obtain rfl : control = .failed fault := ih
    cases frames with
    | nil => cases stepped
    | cons frame frames =>
      cases stepped
      rfl

/-- An operator that has been folded has been read. -/
theorem Reaches.read_of_binary {left tree : Expr} {power : BindingPower}
    (reaches : Reaches rules limit before after)
    (folds : before.control = .call (.binary left power))
    (returned : after.control = .returned tree) :
    ∃ token read, before.cursor.rest = token :: (read ++ after.cursor.rest) := by
  obtain ⟨control, frames, depth, cursor⟩ := before
  obtain rfl : control = .call (.binary left power) := folds
  rcases Relation.ReflTransGen.cases_head reaches with rfl | ⟨middle, stepped, others⟩
  · cases returned
  have others : Reaches rules limit middle after := others
  cases moves_of_step stepped with
  | descend _ _ _ _ read =>
    obtain ⟨token, first⟩ := read rfl
    obtain ⟨more, rest⟩ := others.suffix
    exact ⟨token, more, by rw [first, ← rest]⟩
  | fail =>
    rw [others.failed rfl] at returned
    cases returned

/-! ## Calls of a session -/

/-- There is one way to go on, so every state on the way to an end comes to it. -/
theorem Reaches.goesOn {stack : CallStack} (reaches : Reaches rules limit start stack)
    (ends : Reaches rules limit start final) (last : step rules limit final = none) :
    Reaches rules limit stack final := by
  have unique : Relator.RightUnique fun before after => step rules limit before = some after :=
    fun _ _ _ one other => Option.some.inj (one.symm.trans other)
  rcases Relation.ReflTransGen.total_of_right_unique unique reaches ends with on | back
  · exact on
  · rcases Relation.ReflTransGen.cases_head back with rfl | ⟨next, stepped, -⟩
    · exact .refl _
    · rw [last] at stepped
      cases stepped

/-- The stack of a session that makes a call. -/
def ofSession (session : Session) (call : Call) : CallStack :=
  ⟨.call call, [], session.depth, session.cursor⟩

theorem nested_ofSession (session : Session) (call : Call) :
    Nested session.limit session.depth (ofSession session call) :=
  ⟨List.isChain_singleton _, .inl rfl, fun _ => rfl⟩

end CallStack

open CallStack in
/-- Whatever the rules, the limit, the place and the open levels of a session are, each of its calls
ends, with the reply and the state that the session gives. Of the calls that are open on the way, at
most one more than there were levels left opens a level, and between a group and one inside it there
is an expression. When the call for an operator has returned, at least its sign has been read, so
every operator that is folded moves the cursor. -/
theorem calls_end (session : Session) (call : Call) :
    ∃ final, step session.rules session.limit final = none ∧
      final.control.reply = some (session.act call.action).1 ∧
      (session.act call.action).2 = { session with cursor := final.cursor, depth := final.depth } ∧
      ∀ stack, Reaches session.rules session.limit (.ofSession session call) stack →
        Reaches session.rules session.limit stack final ∧
        stack.calls.countP Routine.opensLevel ≤ session.limit - session.depth + 1 ∧
        (∀ above between below,
          stack.calls = above ++ .grouping :: between ++ .grouping :: below →
            .expression ∈ between) ∧
        ∀ left power after tree, stack.control = .call (.binary left power) →
          Reaches session.rules session.limit stack after → after.control = .returned tree →
            ∃ token read, stack.cursor.rest = token :: (read ++ after.cursor.rest) := by
  have ends := reaches_call session.rules session.limit session.depth session.cursor call []
  have last := step_exit session.rules session.limit session.depth
    ((call.function session.rules session.limit session.depth).run session.cursor)
  obtain ⟨reply, left⟩ := parse_eq session
    (call.function session.rules session.limit session.depth)
  rw [act_action]
  refine ⟨_, last, reply, left, fun stack reaches => ?_⟩
  have nested := (nested_ofSession session call).reaches reaches
  refine ⟨reaches.goesOn ends last, nested.countP_calls_le, ?_, ?_⟩
  · intro above between below split
    exact nested.expression_mem split
  · intro left power after tree folds more returned
    exact more.read_of_binary folds returned

end Calculator.Parser

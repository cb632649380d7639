import Calculator.Proofs.Parser.Nesting

/-!
# Open levels are counted exactly

A call counts its level as open before anything else, also when that is one too many, and closes it
when it answers with a tree. A fault closes nothing. So one step moves the counter by one at most,
and down only when a call is answered that has a level open (`depth_of_step`); and then the counter
is above where the first call has found it, so that closing a level never stops at zero. A call that
returns leaves the counter as it was, and a call that fails leaves it at most one above the limit,
or above where it was if that was higher (`calls_balance`).
-/

namespace Calculator.Parser

namespace CallStack

variable {rules : Rules} {limit base : Nat} {start before after stack : CallStack}

/-- Whether a call is about to be made that would open one level too many. -/
def Overflows (limit : Nat) (stack : CallStack) : Prop :=
  ∃ call : Call, stack.control = .call call ∧ call.routine.opensLevel = true ∧ limit ≤ stack.depth

/-- Whether a call is about to be answered that has a level open. -/
def Closes (stack : CallStack) : Prop :=
  ∃ tree frame frames, stack.control = .returned tree ∧ stack.frames = frame :: frames ∧
    frame.routine.opensLevel = true

/-! ## One step -/

/-- A level that cannot be opened counts as open too. -/
theorem depth_begin (rules : Rules) (limit : Nat) (stack : CallStack) (call : Call) :
    (stack.begin rules limit call).depth =
      stack.depth + if call.routine.opensLevel then 1 else 0 := by
  cases call with
  | expression | negation =>
    simp only [begin, enter]
    split <;> rfl
  | operand | number =>
    simp only [begin]
    split <;> rfl
  | grouping => rfl
  | binary =>
    simp only [begin, enter]
    split
    · split <;> rfl
    · rfl

/-- A tree that is too tall is found so after the level has been closed. -/
theorem depth_check (limit : Nat) (tree : Expr) (stack : CallStack) :
    (stack.check limit tree).depth = stack.depth := by
  unfold check
  split <;> rfl

/-- Only an expression that goes on with an operator leaves its level open. -/
theorem depth_resume (rules : Rules) (limit : Nat) (tree : Expr) (stack : CallStack)
    (frame : Frame) : (stack.resume rules limit tree frame).depth = stack.depth ∨
      frame.routine.opensLevel = true ∧
        (stack.resume rules limit tree frame).depth = stack.leave.depth := by
  cases frame with
  | expression =>
    simp only [resume]
    split
    · split
      · exact .inr ⟨rfl, rfl⟩
      · exact .inl rfl
    · exact .inr ⟨rfl, rfl⟩
  | operand => exact .inl rfl
  | negation => exact .inr ⟨rfl, depth_check limit _ _⟩
  | grouping =>
    simp only [resume]
    split <;> exact .inl rfl
  | binary => exact .inr ⟨rfl, depth_check limit _ _⟩

/-- What a step can do to the counter. -/
theorem depth_of_step (stepped : step rules limit before = some after) :
    after.depth = before.depth ∨
      (∃ call : Call, before.control = .call call ∧ after.depth = before.depth + 1) ∨
      before.Closes ∧ after.depth = before.leave.depth := by
  obtain ⟨control, frames, depth, cursor⟩ := before
  match control, frames with
  | .call call, frames =>
    cases stepped
    rw [depth_begin]
    split
    · exact .inr (.inl ⟨call, rfl, rfl⟩)
    · exact .inl rfl
  | .returned tree, [] => cases stepped
  | .returned tree, frame :: frames =>
    cases stepped
    rcases depth_resume rules limit tree ⟨.returned tree, frames, depth, cursor⟩ frame with
      same | ⟨opens, less⟩
    · exact .inl same
    · exact .inr (.inr ⟨⟨tree, frame, frames, rfl, rfl, opens⟩, less⟩)
  | .failed fault, [] => cases stepped
  | .failed fault, frame :: frames =>
    cases stepped
    exact .inl rfl

/-! ## Every state on the way -/

/-- Where no fault has come up, no more levels are open than the limit allows, unless more were open
from the start. -/
theorem Nested.depth_le (nested : Nested limit base stack)
    (running : ∀ fault, stack.control ≠ .failed fault) : stack.depth ≤ max base limit := by
  have counted := nested.depth running
  have within := nested.within
  omega

/-- The level that is closed was opened on the way. -/
theorem Nested.lt_depth (nested : Nested limit base stack) (closes : stack.Closes) :
    base < stack.depth := by
  obtain ⟨tree, frame, frames, answered, waiting, opens⟩ := closes
  have counted := nested.depth (by simp [answered])
  have opened := levels_cons frame frames
  rw [if_pos opens, ← waiting] at opened
  omega

/-- A level is one too many only at the limit, unless there were too many from the start. -/
theorem Nested.depth_eq (nested : Nested limit base stack) (overflows : stack.Overflows limit)
    (room : base ≤ limit) : stack.depth = limit := by
  obtain ⟨call, called, -, full⟩ := overflows
  have most := nested.depth_le (by simp [called])
  omega

/-- The counter stays where it was or above, and at most one above the limit or where it was. -/
theorem Nested.bounds (nested : Nested limit base start) (level : start.depth = base)
    (reaches : Reaches rules limit start stack) :
    base ≤ stack.depth ∧ stack.depth ≤ max base limit + 1 := by
  induction reaches with
  | refl => omega
  | @tail middle after first stepped ih =>
    have inside : Nested limit base middle := nested.reaches first
    rcases depth_of_step stepped with same | ⟨call, called, more⟩ | ⟨closes, less⟩
    · rwa [same]
    · have most := inside.depth_le (by simp [called])
      omega
    · have least := inside.lt_depth closes
      have closed : middle.leave.depth = middle.depth - 1 := rfl
      omega

/-- After a fault the levels that are open stay open. -/
theorem Reaches.depth_of_failed {fault : Fault} (reaches : Reaches rules limit before after)
    (failed : before.control = .failed fault) : after.depth = before.depth := by
  induction reaches with
  | refl => rfl
  | @tail middle after first stepped ih =>
    have still : middle.control = .failed fault := Reaches.failed first failed
    rw [← ih]
    rcases depth_of_step stepped with same | ⟨call, called, -⟩ | ⟨⟨tree, -, -, answered, -⟩, -⟩
    · exact same
    · cases still.symm.trans called
    · cases still.symm.trans answered

/-- A call that would open one level too many ends in the fault that says so, with that level
counted as open. -/
theorem Overflows.ends {final : CallStack} (overflows : stack.Overflows limit)
    (reaches : Reaches rules limit stack final) (last : step rules limit final = none) :
    final.control = .failed (stack.cursor.tooDeep limit) ∧ final.depth = stack.depth + 1 := by
  obtain ⟨control, frames, depth, cursor⟩ := stack
  obtain ⟨call, called, opens, full⟩ := overflows
  obtain rfl : control = .call call := called
  have others : Reaches rules limit
      ⟨.failed (cursor.tooDeep limit), frames, depth + 1, cursor⟩ final :=
    (Reaches.single (step_full opens full)).goesOn reaches last
  exact ⟨others.failed rfl, others.depth_of_failed rfl⟩

theorem frames_exit (level : Nat) (frames : List Frame) (outcome : Outcome) :
    (exit level frames outcome).frames = frames := by
  cases outcome <;> rfl

end CallStack

/-- Only a call that returns is replied to without a fault. -/
theorem Control.exists_returned {control : Control} {reply : Session.Reply}
    (replied : control.reply = some (.ok reply)) : ∃ tree, control = .returned tree := by
  cases control with
  | returned tree => exact ⟨tree, rfl⟩
  | call => cases replied
  | failed => cases replied

open CallStack in
/-- Whatever the rules, the limit, the place and the open levels of a session are: after a call that
gives a tree as many levels are open as before, and after a call that fails not fewer, and at most
one more than the limit or than before. The calls inside share one counter, which ends where the
session has it. If one of them would open a level too many, the call fails with that fault, and one
level more than the limit is open then, unless there were more before. And wherever a level is
closed on the way, the counter goes down by one. -/
theorem calls_balance (session : Session) (call : Call) :
    (∀ reply, (session.act call.action).1 = .ok reply →
      (session.act call.action).2.depth = session.depth) ∧
    (∀ fault, (session.act call.action).1 = .error fault →
      session.depth ≤ (session.act call.action).2.depth ∧
        (session.act call.action).2.depth ≤ max session.depth session.limit + 1) ∧
    ∃ final, Reaches session.rules session.limit (.ofSession session call) final ∧
      step session.rules session.limit final = none ∧
      final.control.reply = some (session.act call.action).1 ∧
      final.depth = (session.act call.action).2.depth ∧
      ∀ stack, Reaches session.rules session.limit (.ofSession session call) stack →
        (stack.Overflows session.limit →
          (session.act call.action).1 = .error (stack.cursor.tooDeep session.limit) ∧
          (session.depth ≤ session.limit →
            (session.act call.action).2.depth = session.limit + 1)) ∧
        (stack.Closes → stack.leave.depth + 1 = stack.depth) := by
  have ends := reaches_call session.rules session.limit session.depth session.cursor call []
  have last := step_exit session.rules session.limit session.depth
    ((call.function session.rules session.limit session.depth).run session.cursor)
  obtain ⟨replied, left⟩ := parse_eq session
    (call.function session.rules session.limit session.depth)
  have level := congrArg Session.depth left
  have start := nested_ofSession session call
  rw [← act_action] at replied level
  rw [level]
  refine ⟨?_, ?_, _, ends, last, replied, rfl, ?_⟩
  · intro reply done
    rw [done] at replied
    obtain ⟨tree, returned⟩ := Control.exists_returned replied
    have counted := (start.reaches ends).depth (by simp [returned])
    rwa [frames_exit] at counted
  · intro fault failed
    exact start.bounds rfl ends
  · intro stack reaches
    have nested := start.reaches reaches
    refine ⟨fun overflows => ?_, fun closes => ?_⟩
    · obtain ⟨failed, more⟩ := overflows.ends (reaches.goesOn ends last) last
      rw [failed] at replied
      refine ⟨(Option.some.inj replied).symm, fun room => ?_⟩
      exact more.trans (congrArg (· + 1) (nested.depth_eq overflows room))
    · have above := nested.lt_depth closes
      exact Nat.sub_add_cancel (Nat.lt_of_le_of_lt (Nat.zero_le _) above)

/-- Of the two levels of `((` the second is one too many. -/
example : ((Session.start { maxDepth := 1 } .standard
    [⟨.openParen, "(", ⟨0, 1⟩⟩, ⟨.openParen, "(", ⟨1, 2⟩⟩]).act (.expression 0)).2.depth = 2 := by
  decide +kernel

end Calculator.Parser

import Calculator.Proofs.Calculation.Outcome

/-!
# Evaluating on a stack

The nodes of a tree in post-order are a program for a machine with a stack of values: a literal is
pushed, and an operator takes its operands off the stack and pushes what it makes of them, or it
stops the machine. `Machine.run_postorder` says that the program of a tree pushes the value of the
tree, or stops with its fault, whatever lies on the stack before. A program is run from its start,
so the fault of a tree is that of the first node in post-order that cannot be carried out.
-/

namespace Calculator

/-- A node of a tree, apart from its operands. -/
inductive Instruction where
  | push (value : Float)
  /-- An operator that takes one operand. -/
  | unary (sign : Sign)
  /-- An operator that takes two operands. -/
  | binary (sign : Sign)

/-- The sign of a node that is not a literal. -/
def Instruction.sign? : Instruction → Option Sign
  | push _ => none
  | unary sign => some sign
  | binary sign => some sign

/-- The nodes of a tree, each of them after its operands and the left operand first. -/
def Expr.postorder : Expr → List Instruction
  | literal value _ => [.push value]
  | unaryNode sign operand _ _ => operand.postorder ++ [.unary sign]
  | binaryNode sign left right _ _ => left.postorder ++ right.postorder ++ [.binary sign]

/-- A machine that works on a stack of values, with the top of the stack first. -/
inductive Machine where
  | running (stack : List Float)
  | stopped (fault : Fault)
  /-- A value that is not on the stack has been asked for. -/
  | underflow

namespace Machine

/-- What a node does to a stack. The right operand of an operator lies above the left one. -/
def execute : Instruction → List Float → Machine
  | .push value, stack => running (value :: stack)
  | .unary sign, operand :: stack =>
    match sign.operator with
    | .sub => running ((-operand) :: stack)
    | other => stopped ⟨.invalidOperator other.symbol, sign.span.start⟩
  | .binary sign, right :: left :: stack =>
    match sign.operator with
    | .add => running ((left + right) :: stack)
    | .sub => running ((left - right) :: stack)
    | .mul => running ((left * right) :: stack)
    | .div =>
      if right == 0 then stopped ⟨.divisionByZero, sign.span.start⟩
      else running ((left / right) :: stack)
    | .pow =>
      if left == 0 && right < 0 then stopped ⟨.invalidPower, sign.span.start⟩
      else running (left.pow right :: stack)
  | _, _ => underflow

/-- A machine that does not run any more stays as it is. -/
def step : Machine → Instruction → Machine
  | running stack, node => execute node stack
  | halted, _ => halted

/-- Carries out the nodes one after the other. -/
def run (machine : Machine) (program : List Instruction) : Machine := program.foldl step machine

/-- The machine after a value has been pushed, or stopped by a fault. -/
def resume (stack : List Float) : Except Fault Float → Machine
  | .ok value => running (value :: stack)
  | .error fault => stopped fault

variable {program : List Instruction} {stack : List Float} {fault : Fault}

theorem run_cons (machine : Machine) (node : Instruction) (program : List Instruction) :
    machine.run (node :: program) = (machine.step node).run program := rfl

theorem run_append (machine : Machine) (first second : List Instruction) :
    machine.run (first ++ second) = (machine.run first).run second :=
  List.foldl_append

@[simp] theorem run_stopped (fault : Fault) (program : List Instruction) :
    (stopped fault).run program = stopped fault := by
  induction program with
  | nil => rfl
  | cons node program ih => exact ih

@[simp] theorem run_underflow (program : List Instruction) :
    underflow.run program = underflow := by
  induction program with
  | nil => rfl
  | cons node program ih => exact ih

/-- An operator before an operand comes to what it makes of the top of the stack. -/
theorem execute_unary (sign : Sign) (operand : Float) (stack : List Float) :
    execute (.unary sign) (operand :: stack) =
      resume stack (sign.conclusion (sign.operator.applyBefore operand)) := by
  obtain ⟨operator, span⟩ := sign
  cases operator <;> rfl

/-- An operator between operands comes to what it makes of the two values on top. -/
theorem execute_binary (sign : Sign) (left right : Float) (stack : List Float) :
    execute (.binary sign) (right :: left :: stack) =
      resume stack (sign.conclusion (sign.operator.applyBetween left right)) := by
  obtain ⟨operator, span⟩ := sign
  cases operator with
  | add | sub | mul => rfl
  | div =>
    simp only [execute, Operator.applyBetween]
    split <;> rfl
  | pow =>
    simp only [execute, Operator.applyBetween]
    split <;> rfl

/-- The nodes of a tree push its value on any stack, or stop with its fault. -/
theorem run_postorder (tree : Expr) (stack : List Float) :
    (running stack).run tree.postorder = resume stack tree.value := by
  induction tree generalizing stack with
  | literal value span => rfl
  | unaryNode sign operand span height ih =>
    rw [Expr.postorder, run_append, ih, Expr.value_unaryNode]
    cases operand.value with
    | error fault => rfl
    | ok number => exact execute_unary sign number stack
  | binaryNode sign left right span height first second =>
    rw [Expr.postorder, run_append, run_append, first, Expr.value_binaryNode]
    cases left.value with
    | error fault =>
      -- nothing after the left operand is carried out
      simp only [resume, run_stopped]
      rfl
    | ok one =>
      rw [resume, second]
      cases right.value with
      | error fault => rfl
      | ok other => exact execute_binary sign one other stack

/-- A machine is stopped by the first node that stops it. -/
theorem run_eq_stopped_iff : (running stack).run program = stopped fault ↔
    ∃ before node after rest, program = before ++ node :: after ∧
      (running stack).run before = running rest ∧ execute node rest = stopped fault := by
  constructor
  · intro halted
    induction program generalizing stack with
    | nil => cases halted
    | cons node program ih =>
      rw [run_cons, step] at halted
      cases result : execute node stack with
      | stopped other =>
        rw [result, run_stopped] at halted
        cases halted
        exact ⟨[], node, program, stack, rfl, rfl, result⟩
      | underflow =>
        rw [result, run_underflow] at halted
        cases halted
      | running next =>
        rw [result] at halted
        obtain ⟨before, last, after, rest, rfl, ran, stops⟩ := ih halted
        refine ⟨node :: before, last, after, rest, rfl, ?_, stops⟩
        rw [run_cons, step, result, ran]
  · rintro ⟨before, node, after, rest, rfl, ran, stops⟩
    rw [run_append, ran, run_cons, step, stops, run_stopped]

/-- Only a sign stops a machine, and the fault lies where the sign is written. -/
theorem exists_sign_of_execute {node : Instruction} (stops : execute node stack = stopped fault) :
    ∃ sign, node.sign? = some sign ∧ fault.position = sign.span.start := by
  cases node with
  | push value => cases stops
  | unary sign =>
    refine ⟨sign, rfl, ?_⟩
    cases stack with
    | nil => cases stops
    | cons operand stack =>
      rw [execute_unary] at stops
      cases result : sign.operator.applyBefore operand <;> rw [result] at stops <;> cases stops
      rfl
  | binary sign =>
    refine ⟨sign, rfl, ?_⟩
    match stack with
    | [] | [_] => cases stops
    | right :: left :: stack =>
      rw [execute_binary] at stops
      cases result : sign.operator.applyBetween left right <;> rw [result] at stops <;> cases stops
      rfl

/-- Where a whole program does not run out of values, no part of it does. -/
theorem run_ne_underflow {before : List Instruction} {machine : Machine} (part : before <+: program)
    (whole : machine.run program ≠ underflow) : machine.run before ≠ underflow := by
  obtain ⟨after, rfl⟩ := part
  intro short
  apply whole
  rw [run_append, short, run_underflow]

end Machine

open Machine

/-- A machine that starts with an empty stack and is given the nodes of a tree in post-order always
finds the operands that it asks for. It ends with the value of the tree as the only one on its
stack, or it is stopped by the fault of the tree. So the fault of a tree is that of its first node
in post-order that can not be carried out, and it lies at the sign of this node. -/
theorem evaluate_eq_run_postorder (tree : Expr) :
    (∀ value, tree.evaluate.outcome = .ok value ↔
      (running []).run tree.postorder = running [value]) ∧
    (∀ fault, tree.evaluate.outcome = .error fault ↔
      (running []).run tree.postorder = stopped fault) ∧
    (∀ before, before <+: tree.postorder → (running []).run before ≠ underflow) ∧
    (∀ fault, tree.evaluate.outcome = .error fault ↔
      ∃ before node after stack, tree.postorder = before ++ node :: after ∧
        (running []).run before = running stack ∧ execute node stack = stopped fault ∧
        ∃ sign, node.sign? = some sign ∧ fault.position = sign.span.start) := by
  have ran := run_postorder tree []
  change (running []).run tree.postorder = resume [] tree.evaluate.outcome at ran
  have stops (fault : Fault) : tree.evaluate.outcome = .error fault ↔
      (running []).run tree.postorder = stopped fault := by
    rw [ran]
    cases tree.evaluate.outcome <;> simp [resume]
  refine ⟨?_, stops, ?_, ?_⟩
  · intro value
    rw [ran]
    cases tree.evaluate.outcome <;> simp [resume]
  · intro before part
    apply run_ne_underflow part
    rw [ran]
    cases tree.evaluate.outcome <;> simp [resume]
  · intro fault
    rw [stops, run_eq_stopped_iff]
    constructor
    · rintro ⟨before, node, after, stack, split, running, halted⟩
      exact ⟨before, node, after, stack, split, running, halted, exists_sign_of_execute halted⟩
    · rintro ⟨before, node, after, stack, split, running, halted, -⟩
      exact ⟨before, node, after, stack, split, running, halted⟩

end Calculator

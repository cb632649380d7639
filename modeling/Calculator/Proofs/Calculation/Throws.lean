import Calculator.Calculation

/-!
# The faults that a calculation can end with

`Calculation.Throws P` bounds the causes of all faults of a calculation, whatever has been told
before it starts. The bound of a sequence of calculations is the bound of its parts.
-/

namespace Calculator

namespace Calculation

variable {α β : Type} {P : Fault.Cause → Prop}

/-- Every fault of the calculation has a cause with the property. -/
def Throws (P : Fault.Cause → Prop) (calculation : Calculation α) : Prop :=
  ∀ log fault after, calculation.run log = .error fault after → P fault.cause

theorem Throws.imp {Q : Fault.Cause → Prop} {calculation : Calculation α}
    (throws : calculation.Throws P) (weaker : ∀ cause, P cause → Q cause) :
    calculation.Throws Q :=
  fun log fault after failed => weaker fault.cause (throws log fault after failed)

theorem throws_pure (value : α) : Throws P (pure value) := by
  intro log fault after failed
  cases failed

theorem throws_modify (change : Array Event → Array Event) : Throws P (modify change) := by
  intro log fault after failed
  cases failed

theorem throws_note (event : Event) : (note event).Throws P := throws_modify _

theorem Throws.bind {first : Calculation α} {others : α → Calculation β}
    (start : first.Throws P) (rest : ∀ value, (others value).Throws P) :
    Throws P (first >>= others) := by
  intro log fault after failed
  rw [EStateM.run_bind] at failed
  cases read : first.run log with
  | ok value middle =>
    rw [read] at failed
    exact rest value middle fault after failed
  | error other middle =>
    rw [read] at failed
    cases failed
    exact start log _ _ read

/-- The outcome of a calculation has a fault only as its runs do. -/
theorem Throws.outcome {calculation : Calculation α} {fault : Fault}
    (throws : calculation.Throws P) (failed : calculation.outcome = .error fault) :
    P fault.cause := by
  unfold Calculation.outcome at failed
  cases read : calculation.run #[] with
  | ok value after =>
    rw [read] at failed
    cases failed
  | error other after =>
    rw [read] at failed
    cases failed
    exact throws #[] _ _ read

end Calculation

theorem Sign.throws_conclude {P : Fault.Cause → Prop} {sign : Sign}
    {result : Except Fault.Cause Float} (all : ∀ cause, result = .error cause → P cause) :
    (sign.conclude result).Throws P := by
  cases result with
  | ok value => exact Calculation.throws_pure value
  | error cause =>
    intro log fault after failed
    cases failed
    exact all cause rfl

/-- Evaluating a tree never reaches the limit on nesting. -/
theorem Expr.throws_evaluate (tree : Expr) :
    tree.evaluate.Throws fun cause => ∀ limit, cause ≠ .nestingTooDeep limit := by
  induction tree with
  | literal value span => exact Calculation.throws_pure value
  | unaryNode sign operand span height ih =>
    refine ih.bind fun value => Sign.throws_conclude ?_
    rintro cause failed limit rfl
    revert failed
    cases sign.operator <;> simp [Operator.applyBefore]
  | binaryNode sign left right span height first second =>
    refine first.bind fun leftValue => second.bind fun rightValue => ?_
    refine Calculation.Throws.bind (Sign.throws_conclude ?_) fun result =>
      (Calculation.throws_note _).bind fun _ => Calculation.throws_pure result
    rintro cause failed limit rfl
    revert failed
    cases sign.operator <;> simp only [Operator.applyBetween] <;> (try split) <;> simp

end Calculator

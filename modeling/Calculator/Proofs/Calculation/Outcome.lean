import Calculator.Calculation

/-!
# What a calculation comes to

How a calculation ends does not depend on what has been told before it starts, and the events that
it tells itself are not read again. `Calculation.Yields` states the end by itself, and the end of a
sequence of calculations is that of its parts. For a tree this gives its value as an equation on
the values of its operands (`Expr.value_unaryNode` and `Expr.value_binaryNode`).
-/

namespace Calculator

namespace Calculation

variable {α β : Type}

/-- How a run has ended, without the events. -/
def ending : EStateM.Result Fault (Array Event) α → Except Fault α
  | .ok value _ => .ok value
  | .error fault _ => .error fault

/-- Whether the calculation ends so, whatever has been told before. -/
def Yields (calculation : Calculation α) (result : Except Fault α) : Prop :=
  ∀ log, ending (calculation.run log) = result

theorem yields_pure (value : α) : Yields (pure value) (.ok value) := fun _ => rfl

theorem yields_throw (fault : Fault) : Yields (throw fault : Calculation α) (.error fault) :=
  fun _ => rfl

theorem yields_modify (change : Array Event → Array Event) : Yields (modify change) (.ok ()) :=
  fun _ => rfl

theorem yields_note (event : Event) : (note event).Yields (.ok ()) := yields_modify _

/-- Each calculation of a sequence goes on with the value of the one before it. -/
theorem Yields.bind {first : Calculation α} {others : α → Calculation β}
    {result : Except Fault α} {results : α → Except Fault β} (start : first.Yields result)
    (rest : ∀ value, (others value).Yields (results value)) :
    Yields (first >>= others) (result.bind results) := by
  intro log
  rw [← start log, EStateM.run_bind]
  cases first.run log with
  | ok value middle => exact rest value middle
  | error fault after => rfl

theorem Yields.bind_ok {first : Calculation α} {others : α → Calculation β} {value : α}
    {result : Except Fault β} (start : first.Yields (.ok value))
    (rest : (others value).Yields result) : Yields (first >>= others) result := by
  intro log
  have done := start log
  rw [EStateM.run_bind]
  cases read : first.run log with
  | ok found middle =>
    rw [read] at done
    cases done
    exact rest middle
  | error fault after =>
    rw [read] at done
    cases done

theorem Yields.outcome {calculation : Calculation α} {result : Except Fault α}
    (yields : calculation.Yields result) : calculation.outcome = result :=
  yields #[]

end Calculation

/-- The result of a sign's operator, or the fault that lies at the sign. -/
def Sign.conclusion (sign : Sign) (result : Except Fault.Cause Float) : Except Fault Float :=
  result.mapError fun cause => ⟨cause, sign.span.start⟩

theorem Sign.yields_conclude (sign : Sign) (result : Except Fault.Cause Float) :
    (sign.conclude result).Yields (sign.conclusion result) := by
  cases result with
  | ok value => exact Calculation.yields_pure value
  | error cause => exact Calculation.yields_throw _

namespace Expr

variable {sign : Sign} {operand left right : Expr} {span : Span} {height : Nat}

theorem yields_unaryNode {value : Except Fault Float} (inner : operand.evaluate.Yields value) :
    (unaryNode sign operand span height).evaluate.Yields
      (value.bind fun number => sign.conclusion (sign.operator.applyBefore number)) :=
  inner.bind fun number => sign.yields_conclude (sign.operator.applyBefore number)

theorem yields_binaryNode {leftValue rightValue : Except Fault Float}
    (first : left.evaluate.Yields leftValue) (second : right.evaluate.Yields rightValue) :
    (binaryNode sign left right span height).evaluate.Yields
      (leftValue.bind fun one => rightValue.bind fun other =>
        sign.conclusion (sign.operator.applyBetween one other)) := by
  apply first.bind
  intro one
  apply second.bind
  intro other
  rw [← bind_pure (sign.conclusion (sign.operator.applyBetween one other))]
  apply (sign.yields_conclude (sign.operator.applyBetween one other)).bind
  intro result
  exact (Calculation.yields_note (.computed one sign.operator other result)).bind_ok
    (Calculation.yields_pure result)

/-- Evaluating a tree ends with its value. -/
theorem yields_value (tree : Expr) : tree.evaluate.Yields tree.value := by
  have ends : ∃ result, tree.evaluate.Yields result := by
    induction tree with
    | literal value span => exact ⟨_, Calculation.yields_pure value⟩
    | unaryNode sign operand span height ih =>
      obtain ⟨value, inner⟩ := ih
      exact ⟨_, yields_unaryNode inner⟩
    | binaryNode sign left right span height first second =>
      obtain ⟨leftValue, one⟩ := first
      obtain ⟨rightValue, other⟩ := second
      exact ⟨_, yields_binaryNode one other⟩
  obtain ⟨result, yields⟩ := ends
  have same : tree.value = result := yields.outcome
  rw [same]
  exact yields

@[simp] theorem value_literal (value : Float) (span : Span) :
    (literal value span).value = .ok value := rfl

theorem value_unaryNode : (unaryNode sign operand span height).value =
    operand.value.bind fun number => sign.conclusion (sign.operator.applyBefore number) :=
  (yields_unaryNode operand.yields_value).outcome

theorem value_binaryNode : (binaryNode sign left right span height).value =
    left.value.bind fun one => right.value.bind fun other =>
      sign.conclusion (sign.operator.applyBetween one other) :=
  (yields_binaryNode left.yields_value right.yields_value).outcome

end Expr

end Calculator

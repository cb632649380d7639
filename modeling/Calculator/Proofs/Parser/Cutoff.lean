import Calculator.Proofs.Calculation.Throws
import Calculator.Proofs.Parser.Run
import Mathlib.Data.Nat.Find

/-!
# The limit on nesting cuts off

The limit on levels and heights decides whether parsing goes on, and nothing else. A run that is
not cut off stays the same under every higher limit (`Run.mono`), and no run is cut off whose limit
is above the number of tokens (`Run.not_cutOff`). So there is a least limit that admits a list of
tokens, and from there on its parse is always the same.
-/

namespace Calculator.Parser

variable {rules : Rules} {limit : Nat} {task : Task} {depth : Nat} {cursor : Cursor}
  {outcome : Outcome}

/-- Whether a piece of parsing has ended because of the limit. -/
def CutOff : Outcome → Prop
  | .ok _ _ => False
  | .error failure _ => ∃ limit, failure.fault.cause = .nestingTooDeep limit

theorem not_cutOff_ok {tree : Expr} {after : Cursor} : ¬ CutOff (.ok tree after) := not_false

/-- The limit that a run names when it is cut off is its own. -/
theorem Run.eq_limit {failure : Failure} {after : Cursor} {named : Nat}
    (run : Run rules limit task depth cursor outcome) (failed : outcome = .error failure after)
    (cut : failure.fault.cause = .nestingTooDeep named) : named = limit := by
  induction run generalizing failure after with
  | expressionTooDeep | negationTooDeep | negationTooTall | foldTooDeep | foldTooTall =>
    cases failed
    exact (Fault.Cause.nestingTooDeep.inj cut).symm
  | operandMissing | invalidNumber | groupingUnmatched | foldInvalid =>
    cases failed
    cases cut
  | number | negation | grouping | foldStops => cases failed
  | expressionFails _ _ ih | negationFails _ _ ih | groupingFails _ ih | operand _ _ ih
  | foldFails _ _ _ _ _ ih =>
    exact ih failed cut
  | expression _ _ _ _ ih => exact ih failed cut
  | fold _ _ _ _ _ _ _ _ ih => exact ih failed cut

/-- A run that is not cut off is a run under any higher limit, step by step. -/
theorem Run.mono {higher : Nat} (raise : limit ≤ higher)
    (run : Run rules limit task depth cursor outcome) (whole : ¬ CutOff outcome) :
    Run rules higher task depth cursor outcome := by
  induction run with
  | expressionTooDeep | negationTooDeep | negationTooTall | foldTooDeep | foldTooTall =>
    exact absurd ⟨limit, rfl⟩ whole
  | expressionFails room _ first =>
    exact .expressionFails (Nat.lt_of_lt_of_le room raise) (first whole)
  | expression room _ _ first others =>
    exact .expression (Nat.lt_of_lt_of_le room raise) (first not_cutOff_ok) (others whole)
  | operandMissing found => exact .operandMissing found
  | operand found _ body => exact .operand found (body whole)
  | invalidNumber read => exact .invalidNumber read
  | number read => exact .number read
  | negationFails room _ inside =>
    exact .negationFails (Nat.lt_of_lt_of_le room raise) (inside whole)
  | negation room _ low inside =>
    exact .negation (Nat.lt_of_lt_of_le room raise) (inside not_cutOff_ok)
      (Nat.le_trans low raise)
  | groupingFails _ inside => exact .groupingFails (inside whole)
  | groupingUnmatched _ unclosed inside =>
    exact .groupingUnmatched (inside not_cutOff_ok) unclosed
  | grouping _ closed inside => exact .grouping (inside not_cutOff_ok) closed
  | foldStops loose => exact .foldStops loose
  | foldInvalid found tight room unknown =>
    exact .foldInvalid found tight (Nat.lt_of_lt_of_le room raise) unknown
  | foldFails found tight room known _ second =>
    exact .foldFails found tight (Nat.lt_of_lt_of_le room raise) known (second whole)
  | fold found tight room known _ low _ second others =>
    exact .fold found tight (Nat.lt_of_lt_of_le room raise) known (second not_cutOff_ok)
      (Nat.le_trans low raise) (others whole)

/-! ## A limit above the number of tokens -/

/-- The height of what a task has built already. -/
def Task.built : Task → Nat
  | .fold _ left => left.height
  | _ => 0

/-- Whether the tokens that are left cannot lead a task beyond the limit: each of them opens at
most one level more and adds at most one to the height of a tree. A folded operator opens two
levels, but its left operand has used a token that opened none. -/
def Task.Roomy (limit depth : Nat) (cursor : Cursor) : Task → Prop
  | .expression _ => depth + cursor.remaining < limit
  | .fold _ left => 0 < left.height ∧ depth + left.height + cursor.remaining ≤ limit
  | .operand => depth + cursor.remaining ≤ limit
  | .start _ => 0 < cursor.remaining ∧ depth + cursor.remaining ≤ limit

/-- How a roomy task ends: not cut off, and every level of a tree has used up a token. -/
def Outcome.Within (height : Nat) : Outcome → Prop
  | .ok tree after => 0 < tree.height ∧ tree.height + after.remaining ≤ height
  | .error failure _ => ∀ limit, failure.fault.cause ≠ .nestingTooDeep limit

theorem remaining_pos_of_rule {rule : OperandRule} (plain : rules.operand .endOfInput = none)
    (found : rules.operand cursor.current.kind = some rule) : 0 < cursor.remaining :=
  Cursor.remaining_pos_iff.mpr (Rules.kind_ne_of_operand plain found)

theorem remaining_pos_of_operator {operator : Operator}
    (known : Operator.ofKind? cursor.current.kind = some operator) : 0 < cursor.remaining := by
  rw [Cursor.remaining_pos_iff, Operator.ofKind?_eq_some_iff.mp known]
  exact operator.kind_ne_endOfInput

theorem Outcome.Within.mono {low high : Nat} (le : low ≤ high) (within : Outcome.Within low outcome) :
    Outcome.Within high outcome := by
  cases outcome with
  | ok tree after => exact ⟨within.1, Nat.le_trans within.2 le⟩
  | error failure after => exact within

/-- A roomy task is not cut off. -/
theorem Run.within (plain : rules.operand .endOfInput = none)
    (run : Run rules limit task depth cursor outcome) (roomy : task.Roomy limit depth cursor) :
    Outcome.Within (task.built + cursor.remaining) outcome := by
  induction run with
  | expressionTooDeep full =>
    simp only [Task.Roomy] at roomy
    omega
  | expressionFails room _ first =>
    simp only [Task.Roomy] at roomy first
    exact first (by omega)
  | expression room _ _ first others =>
    simp only [Task.Roomy, Task.built] at roomy first others
    obtain ⟨high, used⟩ := first (by omega)
    exact (others ⟨high, by omega⟩).mono (by simp only [Task.built]; omega)
  | operandMissing =>
    intro limit
    simp [Cursor.unexpected]
  | operand found _ body =>
    exact body ⟨remaining_pos_of_rule plain found, roomy⟩
  | invalidNumber =>
    intro limit
    simp
  | number =>
    simp only [Task.Roomy] at roomy
    simp only [Outcome.Within, Task.built, Expr.height_literal, Cursor.remaining_advance]
    omega
  | negationTooDeep full =>
    simp only [Task.Roomy] at roomy
    omega
  | negationFails room _ inside =>
    simp only [Task.Roomy, Cursor.remaining_advance] at roomy inside
    exact (inside (by omega)).mono (by simp only [Task.built]; omega)
  | negationTooTall room _ tall inside =>
    simp only [Task.Roomy, Task.built, Outcome.Within, Cursor.remaining_advance] at roomy inside
    rw [negated, Expr.height_unary] at tall
    have used := (inside (by omega)).2
    omega
  | negation room _ low inside =>
    simp only [Task.Roomy, Task.built, Outcome.Within, Cursor.remaining_advance] at roomy inside
    have used := (inside (by omega)).2
    simp only [Outcome.Within, Task.built, negated, Expr.height_unary]
    omega
  | groupingFails _ inside =>
    simp only [Task.Roomy, Cursor.remaining_advance] at roomy inside
    exact (inside (by omega)).mono (by simp only [Task.built]; omega)
  | groupingUnmatched =>
    intro limit
    simp
  | grouping _ closed inside =>
    simp only [Task.Roomy, Task.built, Outcome.Within, Cursor.remaining_advance] at roomy inside ⊢
    obtain ⟨high, used⟩ := inside (by omega)
    omega
  | foldStops =>
    simp only [Task.Roomy] at roomy
    exact ⟨roomy.1, Nat.le_refl _⟩
  | foldTooDeep _ _ full =>
    simp only [Task.Roomy] at roomy
    omega
  | foldInvalid =>
    intro limit
    simp
  | foldFails _ _ room known _ second =>
    have some := remaining_pos_of_operator known
    simp only [Task.Roomy, Cursor.remaining_advance] at roomy second
    exact (second (by omega)).mono (by simp only [Task.built]; omega)
  | foldTooTall _ _ room known _ tall second =>
    have some := remaining_pos_of_operator known
    simp only [Task.Roomy, Task.built, Outcome.Within, Cursor.remaining_advance] at roomy second
    rw [folded, Expr.height_binary] at tall
    have used := (second (by omega)).2
    omega
  | fold _ _ room known _ low _ second others =>
    have some := remaining_pos_of_operator known
    simp only [Task.Roomy, Task.built, Cursor.remaining_advance, Cursor.remaining_note, folded,
      Expr.height_binary] at roomy second others
    -- the sign and the right operand have used up what the two levels above had to spare
    obtain ⟨high, used⟩ := second (by omega)
    exact (others (by omega)).mono (by simp only [Task.built]; omega)

/-- An expression whose limit is above the number of tokens that are left is not cut off. -/
theorem Run.not_cutOff {least : Nat} (plain : rules.operand .endOfInput = none)
    (run : Run rules limit (.expression least) depth cursor outcome)
    (room : depth + cursor.remaining < limit) : ¬ CutOff outcome := by
  have within := run.within plain room
  cases outcome with
  | ok tree after => exact not_cutOff_ok
  | error failure after =>
    rintro ⟨named, cut⟩
    exact within named cut

end Calculator.Parser

namespace Calculator

/-! ## From runs to calculations -/

section ParseTokens

open Calculator.Parser

variable {settings : Settings} {tokens : List Token}

/-- What can go wrong in a parse is an empty list, a token too many, or what can go wrong in
its run. -/
theorem throws_parseTokens {P : Fault.Cause → Prop} (empty : P .emptyExpression)
    (unexpected : ∀ found, P (.invalidExpression found))
    (run : ∀ log failure after, Run .standard settings.maxDepth
      (.expression BindingPower.lowest.precedence) 0 ⟨Token.terminated tokens, log⟩
      (.error failure after) → P failure.fault.cause) :
    (parseTokens settings tokens).Throws P := by
  intro log fault after failed
  by_cases none : Token.body tokens = []
  · rw [run_parseTokens_of_empty none] at failed
    cases failed
    exact empty
  · obtain ⟨outcome, read⟩ := exists_run .standard settings.maxDepth
      (.expression BindingPower.lowest.precedence) 0 ⟨Token.terminated tokens, log⟩
    rw [run_parseTokens none read] at failed
    cases outcome with
    | error failure stop =>
      cases failed
      exact run log failure _ read
    | ok tree stop =>
      simp only [conclude] at failed
      split at failed
      · split at failed
        · cases failed
        · cases failed
          exact unexpected _
      · cases failed

theorem throws_parseTokens_limit : (parseTokens settings tokens).Throws fun cause =>
    ∀ limit, cause = .nestingTooDeep limit → limit = settings.maxDepth := by
  apply throws_parseTokens
  · rintro limit ⟨⟩
  · rintro found limit ⟨⟩
  · intro log failure after run limit cut
    exact run.eq_limit rfl cut

/-- Under a limit above the number of tokens a parse is not cut off. -/
theorem throws_parseTokens_of_lt (enough : (Token.body tokens).length < settings.maxDepth) :
    (parseTokens settings tokens).Throws fun cause => ∀ limit, cause ≠ .nestingTooDeep limit := by
  apply throws_parseTokens
  · rintro limit ⟨⟩
  · rintro found limit ⟨⟩
  · intro log failure after run limit cut
    refine run.not_cutOff rfl ?_ ⟨limit, cut⟩
    simpa [Cursor.remaining] using enough

end ParseTokens

namespace Calculation

variable {α β : Type}

/-- The second calculation goes as the first, unless the first is cut off. -/
def Extends (short long : Calculation α) : Prop :=
  ∀ log, (∃ fault after limit, short.run log = .error fault after ∧
    fault.cause = .nestingTooDeep limit) ∨ long.run log = short.run log

theorem Extends.refl (calculation : Calculation α) : Extends calculation calculation :=
  fun _ => .inr rfl

theorem Extends.bind {short long : Calculation α} {first second : α → Calculation β}
    (start : Extends short long) (rest : ∀ value, Extends (first value) (second value)) :
    Extends (short >>= first) (long >>= second) := by
  intro log
  simp only [EStateM.run_bind]
  rcases start log with ⟨fault, after, limit, failed, cut⟩ | same
  · exact .inl ⟨fault, after, limit, by rw [failed], cut⟩
  · rw [same]
    cases short.run log with
    | ok value middle => exact rest value middle
    | error fault after => exact .inr rfl

theorem Extends.outcome {short long : Calculation α} (longer : Extends short long)
    (whole : ∀ limit position, short.outcome ≠ .error ⟨.nestingTooDeep limit, position⟩) :
    long.outcome = short.outcome := by
  rcases longer #[] with ⟨fault, after, limit, failed, cut⟩ | same
  · refine absurd ?_ (whole limit fault.position)
    rw [Calculation.outcome, failed, ← cut]
  · rw [Calculation.outcome, Calculation.outcome, same]

end Calculation

/-- Raising the limit of a parse that is not cut off changes nothing about it. -/
theorem extends_parseTokens {settings : Settings} {low high : Nat} (raise : low ≤ high)
    (tokens : List Token) :
    Calculation.Extends (parseTokens (settings.withMaxDepth low) tokens)
      (parseTokens (settings.withMaxDepth high) tokens) := by
  intro log
  by_cases none : Token.body tokens = []
  · right
    rw [Parser.run_parseTokens_of_empty none, Parser.run_parseTokens_of_empty none]
  obtain ⟨outcome, run⟩ := Parser.exists_run .standard low
    (.expression BindingPower.lowest.precedence) 0 ⟨Token.terminated tokens, log⟩
  by_cases cut : Parser.CutOff outcome
  · left
    rw [Parser.run_parseTokens none run]
    cases outcome with
    | ok tree after => exact absurd cut Parser.not_cutOff_ok
    | error failure after =>
      obtain ⟨limit, same⟩ := cut
      exact ⟨failure.fault, after.log, limit, rfl, same⟩
  · right
    have short : (parseTokens (settings.withMaxDepth low) tokens).run log =
        Parser.conclude settings.trailing outcome := Parser.run_parseTokens none run
    have long : (parseTokens (settings.withMaxDepth high) tokens).run log =
        Parser.conclude settings.trailing outcome :=
      Parser.run_parseTokens none (run.mono raise cut)
    rw [short, long]

/-- Raising the limit of a calculation that is not cut off changes nothing about it. -/
theorem extends_calculation {settings : Settings} {low high : Nat} (raise : low ≤ high)
    (source : String) :
    Calculation.Extends (calculation (settings.withMaxDepth low) source)
      (calculation (settings.withMaxDepth high) source) := by
  refine Calculation.Extends.bind ?_ fun tree => Calculation.Extends.refl _
  refine Calculation.Extends.bind (Calculation.Extends.refl _) fun _ => ?_
  refine Calculation.Extends.bind (Calculation.Extends.refl _) fun _ => ?_
  exact Calculation.Extends.bind (extends_parseTokens raise _) fun _ => Calculation.Extends.refl _

/-- The faults of a calculation are those of its parse and those of its evaluation. -/
theorem throws_calculation {P : Fault.Cause → Prop} {settings : Settings} {source : String}
    (parse : (parseTokens settings (Token.scan settings source)).Throws P)
    (evaluate : ∀ tree : Expr, tree.evaluate.Throws P) :
    (calculation settings source).Throws P := by
  have whole : (Calculator.parse settings source).Throws P := by
    refine (Calculation.throws_modify _).bind fun _ => ?_
    refine (Calculation.throws_note _).bind fun _ => parse.bind fun tree => ?_
    exact (Calculation.throws_note _).bind fun _ => Calculation.throws_pure tree
  refine whole.bind fun tree => (evaluate tree).bind fun value => ?_
  exact (Calculation.throws_note _).bind fun _ => Calculation.throws_pure value

/-! ## The threshold -/

/-- Whether a result that depends on a limit is cut off below a threshold, with a fault that names
the limit, and from the threshold on is always the same. -/
def PureCutoff {α : Type} (bound : Nat) (result : Nat → Except Fault α) : Prop :=
  ∃ threshold ≤ bound, ∃ final : Except Fault α,
    (∀ limit position, final ≠ .error ⟨.nestingTooDeep limit, position⟩) ∧
    (∀ limit < threshold, ∃ position, result limit = .error ⟨.nestingTooDeep limit, position⟩) ∧
    (∀ limit ≥ threshold, result limit = final)

/-- Calculations of which each extends those with a lower limit have a threshold. It is the least
limit whose calculation is not cut off. -/
theorem pureCutoff_of_extends {α : Type} {bound : Nat} (calculation : Nat → Calculation α)
    (raise : ∀ low high, low ≤ high → (calculation low).Extends (calculation high))
    (named : ∀ limit, (calculation limit).Throws fun cause =>
      ∀ other, cause = .nestingTooDeep other → other = limit)
    (whole : (calculation bound).Throws fun cause => ∀ limit, cause ≠ .nestingTooDeep limit) :
    PureCutoff bound fun limit => (calculation limit).outcome := by
  classical
  have some : ∃ limit, ∀ other position,
      (calculation limit).outcome ≠ .error ⟨.nestingTooDeep other, position⟩ :=
    ⟨bound, fun other position failed => whole.outcome failed other rfl⟩
  refine ⟨Nat.find some, Nat.find_min' some fun other position failed =>
    whole.outcome failed other rfl, _, Nat.find_spec some, ?_, ?_⟩
  · intro limit below
    have cut := Nat.find_min some below
    push Not at cut
    obtain ⟨other, position, failed⟩ := cut
    obtain rfl : other = limit := (named limit).outcome failed other rfl
    exact ⟨position, failed⟩
  · intro limit above
    exact (raise _ limit above).outcome (Nat.find_spec some)

/-- For every list of tokens, and for every text, there is a threshold of at most one more than the
number of tokens: under a lower limit the parse, or the calculation, is cut off, and from there on
neither its result nor its fault changes. -/
theorem pureCutoff_maxDepth (settings : Settings) :
    (∀ tokens, PureCutoff ((Token.body tokens).length + 1) fun limit =>
      (parseTokens (settings.withMaxDepth limit) tokens).outcome) ∧
    (∀ source, PureCutoff ((Token.body (Token.scan settings source)).length + 1) fun limit =>
      calculate (settings.withMaxDepth limit) source) := by
  constructor
  · intro tokens
    refine pureCutoff_of_extends (fun limit => parseTokens (settings.withMaxDepth limit) tokens)
      (fun low high le => extends_parseTokens le tokens) (fun limit => throws_parseTokens_limit) ?_
    exact throws_parseTokens_of_lt (Nat.lt_succ_self _)
  · intro source
    refine pureCutoff_of_extends (fun limit => calculation (settings.withMaxDepth limit) source)
      (fun low high le => extends_calculation le source) (fun limit => ?_) ?_
    · refine throws_calculation throws_parseTokens_limit fun tree => ?_
      exact tree.throws_evaluate.imp fun cause never other same => absurd same (never other)
    · exact throws_calculation (throws_parseTokens_of_lt (Nat.lt_succ_self _)) Expr.throws_evaluate

end Calculator

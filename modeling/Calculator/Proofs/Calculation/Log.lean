import Calculator.Proofs.Grammar.Levels
import Calculator.Proofs.Grammar.Soundness
import Calculator.Proofs.Parser.Relocation

/-!
# The order of operations in the log

A tree is built by one recursion and evaluated by another, and both tell of its operations between
two operands. `Expr.operations` is the order in which both do: every operation stands behind those
inside its operands, and the left operand comes first. The parser tells all of them as it folds,
before the tree is complete; evaluation tells those up to the first one that fails.

Both halves are proved by themselves, the first along the runs of the parser (`Run.folds`) and the
second along the tree (`Expr.performs_evaluate`), and joined in `log_of_parse`.
-/

namespace Calculator

/-! ## Operations of a tree -/

/-- A sign between two operands, as a node of a tree. -/
structure Operation where
  sign : Sign
  left : Expr
  right : Expr

/-- The nodes with two operands, each of them after those below it and the left operand first. -/
def Expr.operations : Expr → List Operation
  | literal _ _ => []
  | unaryNode _ operand _ _ => operand.operations
  | binaryNode sign left right _ _ => left.operations ++ right.operations ++ [⟨sign, left, right⟩]

namespace Operation

/-- Whether the operands have these values, and the operator makes this result of them. -/
def Gives (node : Operation) (left right result : Float) : Prop :=
  node.left.value = .ok left ∧ node.right.value = .ok right ∧
    node.sign.operator.applyBetween left right = .ok result

/-- Whether an event is that of the operation, with the values of its operands and its result. -/
def Computes (node : Operation) (event : Event) : Prop :=
  ∃ left right result, node.Gives left right result ∧
    event = .computed left node.sign.operator right result

/-- Whether the operands have values that the operator makes nothing of, so that there is a fault
at its sign. -/
def Fails (node : Operation) (fault : Fault) : Prop :=
  ∃ left right cause, node.left.value = .ok left ∧ node.right.value = .ok right ∧
    node.sign.operator.applyBetween left right = .error cause ∧
    fault = ⟨cause, node.sign.span.start⟩

end Operation

/-- Whether every sign before an operand is a minus sign, which never fails. -/
def Expr.Negates : Expr → Prop
  | literal _ _ => True
  | unaryNode sign operand _ _ => sign.operator = .sub ∧ operand.Negates
  | binaryNode _ left right _ _ => left.Negates ∧ right.Negates

theorem Phrase.negates_tree (phrase : Phrase) : phrase.tree.Negates := by
  induction phrase with
  | number token value => trivial
  | negation sign inner ih => exact ⟨rfl, ih⟩
  | group opening inner closing ih => exact ih
  | operation left operator sign right first second => exact ⟨first, second⟩

/-! ## What an evaluation tells -/

namespace Calculation

variable {α β : Type} {first : Calculation α} {others : α → Calculation β}
  {nodes more : List Operation} {node : Operation}

/-- A result together with the log that is left. -/
def close (result : Except Fault α) (log : Array Event) : EStateM.Result Fault (Array Event) α :=
  match result with
  | .ok value => .ok value log
  | .error fault => .error fault log

/-- Whether the events are those of the operations, one after the other: of all of them if there is
no fault, and otherwise of those before the first that fails. -/
def Tells (nodes : List Operation) (events : List Event) : Except Fault α → Prop
  | .ok _ => List.Forall₂ Operation.Computes nodes events
  | .error fault => ∃ done node rest, nodes = done ++ node :: rest ∧
      List.Forall₂ Operation.Computes done events ∧ node.Fails fault

/-- Whether a calculation carries out the operations in their order and ends so, whatever has been
told before. It tells of nothing else. -/
def Performs (calculation : Calculation α) (nodes : List Operation) (result : Except Fault α) :
    Prop :=
  ∃ events, (∀ log, calculation.run log = close result (log ++ events.toArray)) ∧
    Tells nodes events result

theorem performs_pure (value : α) : Performs (pure value) [] (.ok value) := by
  refine ⟨[], fun log => ?_, .nil⟩
  rw [Array.append_empty]
  rfl

theorem performs_note {event : Event} (computes : node.Computes event) :
    (note event).Performs [node] (.ok ()) :=
  ⟨[event], fun _ => rfl, .cons computes .nil⟩

theorem performs_throw {fault : Fault} (fails : node.Fails fault) :
    Performs (throw fault : Calculation α) [node] (.error fault) := by
  refine ⟨[], fun log => ?_, [], node, [], rfl, .nil, fails⟩
  rw [Array.append_empty]
  rfl

/-- The operations of a sequence of calculations come in the order of the sequence. -/
theorem Performs.bind_ok {value : α} {result : Except Fault β}
    (start : first.Performs nodes (.ok value)) (rest : (others value).Performs more result) :
    Performs (first >>= others) (nodes ++ more) result := by
  obtain ⟨events, run, told⟩ := start
  obtain ⟨later, goes, tells⟩ := rest
  refine ⟨events ++ later, ?_, ?_⟩
  · intro log
    rw [EStateM.run_bind, run log]
    refine (goes _).trans (congrArg (close result) ?_)
    simp
  · cases result with
    | ok value => exact List.rel_append told tells
    | error fault =>
      obtain ⟨done, node, behind, rfl, before, fails⟩ := tells
      exact ⟨nodes ++ done, node, behind, (List.append_assoc ..).symm,
        List.rel_append told before, fails⟩

/-- After a fault no operation is carried out. -/
theorem Performs.bind_error {fault : Fault} (start : first.Performs nodes (.error fault))
    (more : List Operation) : Performs (first >>= others) (nodes ++ more) (.error fault) := by
  obtain ⟨events, run, done, node, rest, rfl, told, fails⟩ := start
  refine ⟨events, ?_, done, node, rest ++ more, List.append_assoc .., told, fails⟩
  intro log
  rw [EStateM.run_bind, run log]
  rfl

end Calculation

namespace Expr

open Calculation

variable {sign : Sign} {operand left right : Expr} {span : Span} {height : Nat}

theorem performs_unaryNode {nodes : List Operation} (negates : sign.operator = .sub)
    (inner : operand.evaluate.Performs nodes operand.value) :
    (unaryNode sign operand span height).evaluate.Performs nodes
      (unaryNode sign operand span height).value := by
  rw [value_unaryNode, negates, ← List.append_nil nodes]
  cases result : operand.value with
  | error fault =>
    rw [result] at inner
    exact inner.bind_error []
  | ok number =>
    rw [result] at inner
    refine inner.bind_ok ?_
    rw [negates]
    exact performs_pure (-number)

/-- An operator and the values of its operands are one operation. -/
theorem performs_conclude {one other : Float} (leftValue : left.value = .ok one)
    (rightValue : right.value = .ok other) :
    Performs (do
      let result ← sign.conclude (sign.operator.applyBetween one other)
      note (.computed one sign.operator other result)
      return result) [⟨sign, left, right⟩]
      (sign.conclusion (sign.operator.applyBetween one other)) := by
  cases applied : sign.operator.applyBetween one other with
  | error cause =>
    have fails : Operation.Fails ⟨sign, left, right⟩ ⟨cause, sign.span.start⟩ :=
      ⟨one, other, cause, leftValue, rightValue, applied, rfl⟩
    exact (performs_throw fails).bind_error []
  | ok result =>
    have computes : Operation.Computes ⟨sign, left, right⟩
        (.computed one sign.operator other result) :=
      ⟨one, other, result, ⟨leftValue, rightValue, applied⟩, rfl⟩
    exact (performs_pure result).bind_ok ((performs_note computes).bind_ok (performs_pure result))

theorem performs_binaryNode {nodes more : List Operation}
    (first : left.evaluate.Performs nodes left.value)
    (second : right.evaluate.Performs more right.value) :
    (binaryNode sign left right span height).evaluate.Performs
      (nodes ++ more ++ [⟨sign, left, right⟩]) (binaryNode sign left right span height).value := by
  rw [value_binaryNode, List.append_assoc]
  cases leftValue : left.value with
  | error fault =>
    rw [leftValue] at first
    exact first.bind_error _
  | ok one =>
    rw [leftValue] at first
    refine first.bind_ok ?_
    cases rightValue : right.value with
    | error fault =>
      rw [rightValue] at second
      exact second.bind_error _
    | ok other =>
      rw [rightValue] at second
      exact second.bind_ok (performs_conclude leftValue rightValue)

/-- Evaluating a tree carries out its operations in their order, up to the first that fails. -/
theorem performs_evaluate {tree : Expr} (negates : tree.Negates) :
    tree.evaluate.Performs tree.operations tree.value := by
  induction tree with
  | literal value span => exact performs_pure value
  | unaryNode sign operand span height ih => exact performs_unaryNode negates.1 (ih negates.2)
  | binaryNode sign left right span height first second =>
    exact performs_binaryNode (first negates.1) (second negates.2)

end Expr

/-! ## What a parse tells -/

namespace Parser

variable {rules : Rules} {limit depth : Nat} {task : Task} {cursor after : Cursor} {tree : Expr}
  {outcome : Outcome}

/-- The operations that were folded before a task. -/
def Task.operations : Task → List Operation
  | .fold _ left => left.operations
  | _ => []

@[simp] theorem log_advance (cursor : Cursor) : cursor.advance.log = cursor.log := by
  unfold Cursor.advance
  split <;> rfl

@[simp] theorem log_note (cursor : Cursor) (event : Event) :
    (cursor.note event).log = cursor.log.push event := rfl

theorem operations_folded (cursor : Cursor) (operator : Operator) (left right : Expr) :
    (folded cursor operator left right).operations = left.operations ++ right.operations ++
      [⟨⟨operator, cursor.current.span⟩, left, right⟩] := rfl

/-- A run that ends with a tree tells the operations that it adds to it, in their order. -/
theorem Run.folds (run : Run rules limit task depth cursor outcome)
    (done : outcome = .ok tree after) :
    ∃ nodes, tree.operations = task.operations ++ nodes ∧
      after.log.toList = cursor.log.toList ++ nodes.map fun node => .folded node.sign := by
  induction run generalizing tree after with
  | expressionTooDeep | expressionFails | operandMissing | invalidNumber | negationTooDeep
  | negationFails | negationTooTall | groupingFails | groupingUnmatched | foldTooDeep
  | foldInvalid | foldFails | foldTooTall => cases done
  | @expression _ _ _ middle left _ _ _ _ first others =>
    obtain ⟨inside, whole, told⟩ := first rfl
    obtain ⟨behind, rest, more⟩ := others done
    refine ⟨inside ++ behind, ?_, ?_⟩
    · rw [rest, Task.operations, whole]
      rfl
    · rw [more, told, List.map_append, List.append_assoc]
  | operand _ _ body => exact body done
  | number =>
    cases done
    exact ⟨[], rfl, by simp⟩
  | negation _ _ _ inside =>
    cases done
    obtain ⟨nodes, whole, told⟩ := inside rfl
    refine ⟨nodes, whole, ?_⟩
    rw [told, log_advance]
  | grouping _ _ inside =>
    cases done
    obtain ⟨nodes, whole, told⟩ := inside rfl
    refine ⟨nodes, whole, ?_⟩
    rw [log_advance, told, log_advance]
  | foldStops =>
    cases done
    exact ⟨[], by simp [Task.operations], by simp⟩
  | @fold _ _ cursor middle left right _ operator _ _ _ _ _ _ _ _ second others =>
    obtain ⟨inside, whole, told⟩ := second rfl
    obtain ⟨behind, rest, more⟩ := others done
    -- the right operand is told first, then this operation, then those that are folded after it
    refine ⟨inside ++ ⟨⟨operator, cursor.current.span⟩, left, right⟩ :: behind, ?_, ?_⟩
    · rw [rest, Task.operations, operations_folded, whole]
      simp [Task.operations]
    · rw [more, log_note, Array.toList_push, told, log_advance]
      simp

/-- Parsing tokens into a tree tells the operations of the tree, and at most one thing more. -/
theorem run_parseTokens_folds {settings : Settings} {tokens : List Token} {log told : Array Event}
    (parsed : (parseTokens settings tokens).run log = .ok tree told) :
    ∃ between, told.toList =
        log.toList ++ tree.operations.map (fun node => .folded node.sign) ++ between ∧
      ∀ event ∈ between, ∃ position, event = .trailing position := by
  by_cases empty : Token.body tokens = []
  case pos =>
    rw [run_parseTokens_of_empty empty] at parsed
    cases parsed
  obtain ⟨outcome, run, ends⟩ := exists_run_parseTokens settings empty log
  rw [ends] at parsed
  cases outcome with
  | error failure after => cases parsed
  | ok result after =>
    obtain ⟨nodes, whole, written⟩ := run.folds rfl
    obtain rfl : result.operations = nodes := whole
    simp only [conclude] at parsed
    split at parsed
    · split at parsed
      · cases parsed
        refine ⟨[.trailing after.current.span.start], ?_, by simp⟩
        rw [Array.toList_push, written]
      · cases parsed
    · cases parsed
      refine ⟨[], ?_, by simp⟩
      rw [written, List.append_nil]

end Parser

/-! ## What a scanner tells -/

/-- Whether an event is about characters and tokens. -/
def Event.IsReading : Event → Prop
  | lexed _ | joined _ _ | skipped _ _ | scanned _ => True
  | _ => False

namespace Scanner

variable {scanner : Scanner}

/-- Whether a scanner has told of nothing but what it has read. -/
def OnlyReads (scanner : Scanner) : Prop := ∀ event ∈ scanner.log, event.IsReading

theorem OnlyReads.tell (before : scanner.OnlyReads) {event : Event} (reading : event.IsReading) :
    ∀ told ∈ scanner.log.push event, told.IsReading := by
  intro told member
  rcases Array.mem_push.mp member with earlier | rfl
  · exact before told earlier
  · exact reading

theorem OnlyReads.push (before : scanner.OnlyReads) (token : Token) :
    (scanner.push token).OnlyReads :=
  before.tell trivial

theorem OnlyReads.readNumber (before : scanner.OnlyReads) (text : String) :
    (scanner.readNumber text).OnlyReads := by
  unfold Scanner.readNumber
  split
  · exact before.tell trivial
  · exact before.push _

theorem OnlyReads.readUnrecognised (before : scanner.OnlyReads) (c : Char) :
    (scanner.readUnrecognised c).OnlyReads := by
  unfold Scanner.readUnrecognised
  split
  · exact before.push _
  · exact before.tell trivial

theorem OnlyReads.reads {piece : List Char} {next : Scanner} (before : scanner.OnlyReads)
    (reads : scanner.Reads piece next) : next.OnlyReads := by
  cases reads with
  | number word => exact before.readNumber word
  | blank => exact before
  | symbol => exact before.push _
  | unrecognised c => exact before.readUnrecognised c

theorem OnlyReads.run (before : scanner.OnlyReads) (text : List Char) :
    (scanner.run text).OnlyReads :=
  @run_keeps [] scanner (fun _ scanner => scanner.OnlyReads) OnlyReads.reads before text

theorem onlyReads_scan (settings : Settings) (source : String) :
    (scan settings source).OnlyReads := by
  have begun : (start settings).OnlyReads := fun _ member => absurd member (Array.not_mem_empty _)
  exact (begun.run source.toList).push _

end Scanner

/-! ## The whole log -/

section Log

variable {settings : Settings} {source : String} {tree : Expr}

/-- An event as the log shows it: how much it matters, and its message. -/
def Event.record (event : Event) : Event.Level × String := (event.level, event.message)

namespace Operation

/-- The record of an operator at its place, once its right operand is complete. -/
def folding (node : Operation) : Event.Level × String :=
  (.trace, "folding " ++ node.sign.operator.symbol ++ " at " ++ node.sign.span.start.repr)

/-- The record of an operator with values on both sides and what it makes of them. -/
def equation (node : Operation) (left right result : Float) : Event.Level × String :=
  (.trace, Decimal.plain left ++ " " ++ node.sign.operator.symbol ++ " " ++ Decimal.plain right ++
    " = " ++ Decimal.plain result)

/-- Whether a record is the equation of the operation, with the values of its operands. -/
def Shows (node : Operation) (record : Event.Level × String) : Prop :=
  ∃ left right result, node.Gives left right result ∧ record = node.equation left right result

theorem Computes.shows {node : Operation} {event : Event} (computes : node.Computes event) :
    node.Shows event.record := by
  obtain ⟨left, right, result, gives, rfl⟩ := computes
  exact ⟨left, right, result, gives, rfl⟩

theorem shows_of_computes {nodes : List Operation} {events : List Event}
    (computes : List.Forall₂ Computes nodes events) :
    List.Forall₂ Shows nodes (events.map Event.record) :=
  List.forall₂_map_right_iff.mpr (computes.imp fun _ _ => Computes.shows)

end Operation

/-- A parse tells of what is read, of the operations of the tree, and of the tree. -/
theorem run_parse_folds (parsed : (parse settings source).outcome = .ok tree) :
    ∃ log before between, (parse settings source).run #[] = .ok tree log ∧
      log.toList = before ++ tree.operations.map (fun node => .folded node.sign) ++ between ++
        [.parsed tree] ∧
      (∀ event ∈ before, event.IsReading) ∧
      ∀ event ∈ between, ∃ position, event = .trailing position := by
  let scanner := Scanner.scan settings source
  let read := (#[] ++ scanner.log).push (.scanned scanner.tokens)
  have start : (parse settings source).run #[] =
      (parseTokens settings scanner.tokens >>= fun tree => do
        Calculation.note (.parsed tree)
        return tree).run read := rfl
  rw [EStateM.run_bind] at start
  cases run : (parseTokens settings scanner.tokens).run read with
  | error fault log =>
    rw [Calculation.outcome, start, run] at parsed
    cases parsed
  | ok result log =>
    rw [Calculation.outcome, start, run] at parsed
    cases parsed
    obtain ⟨between, told, trailing⟩ := Parser.run_parseTokens_folds run
    rw [run] at start
    refine ⟨log.push (.parsed tree), read.toList, between, start, ?_, ?_, trailing⟩
    · rw [Array.toList_push, told]
    · intro event member
      have begun : #[] ++ scanner.log = scanner.log := Array.empty_append
      have told : event ∈ scanner.log.push (.scanned scanner.tokens) := by
        rw [← begun]
        exact Array.mem_toList_iff.mp member
      have reading : (Event.scanned scanner.tokens).IsReading := trivial
      exact (Scanner.onlyReads_scan settings source).tell reading event told

/-- After a parse the operations of the tree are carried out, and the value is told if there is
one. -/
theorem run_calculation {log : Array Event}
    (run : (parse settings source).run #[] = .ok tree log) (negates : tree.Negates) :
    ∃ events, Calculation.Tells tree.operations events tree.value ∧
      (calculation settings source).run #[] =
        match tree.value with
        | .ok value => .ok value ((log ++ events.toArray).push (.finished value))
        | .error fault => .error fault (log ++ events.toArray) := by
  obtain ⟨events, evaluates, tells⟩ := Expr.performs_evaluate negates
  refine ⟨events, tells, ?_⟩
  rw [calculation, EStateM.run_bind, run]
  simp only [EStateM.run_bind, evaluates log]
  cases tree.value <;> rfl

theorem negates_of_parse (parsed : (parse settings source).outcome = .ok tree) : tree.Negates := by
  rw [(yields_parse settings source).outcome] at parsed
  obtain ⟨phrase, -, -, rfl, -⟩ := Parser.exists_phrase_of_outcome parsed
  exact phrase.negates_tree

/-- Whether what is shown behind a tree goes with the outcome of the whole calculation: the
operations of the tree and the value, or the operations before the one that fails. -/
def Expr.Concludes (tree : Expr) (records : List (Event.Level × String)) :
    Except Fault Float → Prop
  | .ok value => ∃ equations, List.Forall₂ Operation.Shows tree.operations equations ∧
      records = equations ++ [(.debug, "result: " ++ Decimal.pointed value)]
  | .error fault => ∃ done node rest, tree.operations = done ++ node :: rest ∧
      List.Forall₂ Operation.Shows done records ∧ node.Fails fault

/-- The log of a text that has a tree shows the operations of the tree twice and in the same order:
all of them as they are folded, and behind the tree those that are carried out. -/
theorem log_of_parse (parsed : (parse settings source).outcome = .ok tree) :
    ∃ (before between : List Event) (after : List (Event.Level × String)),
      (calculation settings source).log.toList.map Event.record =
        before.map Event.record ++ tree.operations.map Operation.folding ++
          between.map Event.record ++ (.debug, "parsed: " ++ tree.display) :: after ∧
      (∀ event ∈ before, event.IsReading) ∧
      (∀ event ∈ between, ∃ position, event = .trailing position) ∧
      tree.Concludes after (calculate settings source) := by
  obtain ⟨log, before, between, parses, told, reading, trailing⟩ := run_parse_folds parsed
  obtain ⟨events, tells, runs⟩ := run_calculation parses (negates_of_parse parsed)
  have shown : log.toList.map Event.record = before.map Event.record ++
      tree.operations.map Operation.folding ++ between.map Event.record ++
        [(.debug, "parsed: " ++ tree.display)] := by
    rw [told]
    simp only [List.map_append, List.map_map]
    rfl
  cases value : tree.value with
  | ok number =>
    rw [value] at tells runs
    have valued : calculate settings source = .ok number := by
      rw [calculate, Calculation.outcome, runs]
    have logged : (calculation settings source).log =
        (log ++ events.toArray).push (.finished number) := by
      rw [Calculation.log, runs]
    rw [logged, valued]
    refine ⟨before, between, events.map Event.record ++ [(Event.finished number).record], ?_,
      reading, trailing, _, Operation.shows_of_computes tells, rfl⟩
    rw [Array.toList_push, Array.toList_append, List.map_append, List.map_append, shown,
      List.append_assoc, List.append_assoc]
    rfl
  | error fault =>
    rw [value] at tells runs
    obtain ⟨done, node, rest, split, computed, fails⟩ := tells
    have failed : calculate settings source = .error fault := by
      rw [calculate, Calculation.outcome, runs]
    have logged : (calculation settings source).log = log ++ events.toArray := by
      rw [Calculation.log, runs]
    rw [logged, failed]
    refine ⟨before, between, events.map Event.record, ?_, reading, trailing,
      done, node, rest, split, Operation.shows_of_computes computed, fails⟩
    rw [Array.toList_append, List.map_append, shown, List.append_assoc]
    rfl

/-- The product in `2*3/0` is carried out and shown, the quotient is not. -/
theorem log_of_quotient :
    ∃ tree, (parse {} "2*3/0").outcome = .ok tree ∧
      ∃ (before between : List Event) (after : List (Event.Level × String)),
        (calculation {} "2*3/0").log.toList.map Event.record =
          before.map Event.record ++ [(.trace, "folding * at 1"), (.trace, "folding / at 3")] ++
            between.map Event.record ++ (.debug, "parsed: " ++ tree.display) :: after ∧
        (∀ event ∈ before, event.IsReading) ∧
        (∀ event ∈ between, ∃ position, event = .trailing position) ∧
        tree.Concludes after (.error ⟨.divisionByZero, 3⟩) := by
  let phrase : Phrase := .operation
    (.operation (.number ⟨.number, "2", ⟨0, 1⟩⟩ (.ofScientific 2 false 0)) .mul
      ⟨.star, "*", ⟨1, 2⟩⟩ (.number ⟨.number, "3", ⟨2, 3⟩⟩ (.ofScientific 3 false 0)))
    .div ⟨.slash, "/", ⟨3, 4⟩⟩ (.number ⟨.number, "0", ⟨4, 5⟩⟩ (.ofScientific 0 false 0))
  have number {token : Token} {value : Float} (written : token.kind = .number)
      (read : Decimal.read? token.text = some value) : Derives .power (.number token value) :=
    .unary (.primary (.number written read))
  have derived : Derives .expr phrase :=
    .term (.product (.inr rfl) rfl
      (.product (.inl rfl) rfl (.power (number rfl rfl)) (number rfl rfl)) (number rfl rfl))
  have scanned : Token.scan {} "2*3/0" = phrase.tokens ++ [.finish 5] := by
    rw [Token.scan_eq]
    rfl
  have parsed : (parse {} "2*3/0").outcome = .ok phrase.tree := by
    rw [(yields_parse {} "2*3/0").outcome, scanned]
    exact (derived.needsLevels rfl {}).1 (by decide)
  have failed : calculate {} "2*3/0" = .error ⟨.divisionByZero, 3⟩ := by decide +kernel
  have folded : phrase.tree.operations.map Operation.folding =
      [(.trace, "folding * at 1"), (.trace, "folding / at 3")] := by
    decide +kernel
  refine ⟨phrase.tree, parsed, ?_⟩
  rw [← failed, ← folded]
  exact log_of_parse parsed

end Log

end Calculator

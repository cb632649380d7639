import Calculator.Proofs.Calculation.Outcome
import Calculator.Proofs.Parser.Run
import Calculator.Proofs.Token.Scan

/-!
# Positions are carried along

Nothing that a parser does depends on where its tokens stand, or on what has been told before it
starts. Tokens of the same kinds and texts at other places are parsed into the same tree at other
places, or into the same fault at another position. A `Relocation` says which spans may take each
other's places. Since evaluating a tree does not look at positions either, the value of a text
depends on the kinds and texts of its tokens alone (`calculate_of_moves`).
-/

namespace Calculator

/-- A way to put spans in the places of others, under which the span from one stretch to another
goes to the span between their places. -/
structure Relocation where
  /-- Where the start of a span goes. -/
  position : Nat → Nat
  /-- Whether a span may take the place of another. -/
  Carries : Span → Span → Prop
  start_eq {span place : Span} : Carries span place → place.start = position span.start
  join {first last firstPlace lastPlace : Span} : Carries first firstPlace →
    Carries last lastPlace → Carries (first.join last) (firstPlace.join lastPlace)

namespace Relocation

/-- Every span keeps its place. -/
def refl : Relocation where
  position := id
  Carries := Eq
  start_eq := by
    rintro span _ rfl
    rfl
  join := by
    rintro first last _ _ rfl rfl
    rfl

/-- Spans go where their starts go, and end anywhere. -/
def ofStarts (position : Nat → Nat) : Relocation where
  position := position
  Carries span place := place.start = position span.start
  start_eq := id
  join first _ := first

end Relocation

/-- The fault at the place of its position. -/
def Fault.move (position : Nat → Nat) (fault : Fault) : Fault :=
  { fault with position := position fault.position }

variable {way : Relocation}

/-- Whether a token is another one at another place. -/
structure Token.Moves (way : Relocation) (token moved : Token) : Prop where
  kind : moved.kind = token.kind
  text : moved.text = token.text
  span : way.Carries token.span moved.span

theorem Token.Moves.start {token moved : Token} (moves : token.Moves way moved) :
    moved.span.start = way.position token.span.start :=
  way.start_eq moves.span

/-! ## Trees -/

/-- Whether a tree is another one with all its spans at other places. -/
inductive Expr.Moves (way : Relocation) : Expr → Expr → Prop where
  | literal {value : Float} {span place : Span} (whole : way.Carries span place) :
      Moves way (.literal value span) (.literal value place)
  | unaryNode {sign : Sign} {operand moved : Expr} {span place signPlace : Span} {height : Nat}
      (own : way.Carries sign.span signPlace) (inner : Moves way operand moved)
      (whole : way.Carries span place) :
      Moves way (.unaryNode sign operand span height)
        (.unaryNode ⟨sign.operator, signPlace⟩ moved place height)
  | binaryNode {sign : Sign} {left right leftMoved rightMoved : Expr}
      {span place signPlace : Span} {height : Nat} (own : way.Carries sign.span signPlace)
      (first : Moves way left leftMoved) (second : Moves way right rightMoved)
      (whole : way.Carries span place) :
      Moves way (.binaryNode sign left right span height)
        (.binaryNode ⟨sign.operator, signPlace⟩ leftMoved rightMoved place height)

namespace Expr.Moves

variable {tree moved left right leftMoved rightMoved : Expr} {place : Span}

theorem carries (moves : tree.Moves way moved) : way.Carries tree.span moved.span := by
  cases moves <;> assumption

theorem height_eq (moves : tree.Moves way moved) : moved.height = tree.height := by
  cases moves <;> rfl

theorem blamed_eq (moves : tree.Moves way moved) : moved.blamed = way.position tree.blamed := by
  cases moves with
  | literal whole => exact way.start_eq whole
  | unaryNode own => exact way.start_eq own
  | binaryNode own => exact way.start_eq own

theorem unary {sign : Sign} (own : way.Carries sign.span place) (inner : tree.Moves way moved) :
    (Expr.unary sign tree).Moves way (.unary ⟨sign.operator, place⟩ moved) := by
  have whole := way.join own inner.carries
  rw [Expr.unary, Expr.unary, inner.height_eq]
  exact .unaryNode own inner whole

theorem binary {sign : Sign} (own : way.Carries sign.span place)
    (first : left.Moves way leftMoved) (second : right.Moves way rightMoved) :
    (Expr.binary sign left right).Moves way
      (.binary ⟨sign.operator, place⟩ leftMoved rightMoved) := by
  have whole := way.join first.carries second.carries
  rw [Expr.binary, Expr.binary, first.height_eq, second.height_eq]
  exact .binaryNode own first second whole

theorem eq_of_refl (moves : tree.Moves .refl moved) : moved = tree := by
  induction moves with
  | literal whole =>
    cases whole
    rfl
  | unaryNode own _ whole ih =>
    cases own
    cases whole
    rw [ih]
  | binaryNode own _ _ whole first second =>
    cases own
    cases whole
    rw [first, second]

end Expr.Moves

/-- The fault at a sign moves with the sign. -/
theorem Sign.conclusion_moved {sign : Sign} {place : Span} (own : way.Carries sign.span place)
    (result : Except Fault.Cause Float) : Sign.conclusion ⟨sign.operator, place⟩ result =
      (sign.conclusion result).mapError (Fault.move way.position) := by
  cases result with
  | ok value => rfl
  | error cause => exact congrArg (fun start => Except.error (Fault.mk cause start)) (way.start_eq own)

/-- The value of a tree stays as it is, and a fault of it moves with the tree. -/
theorem Expr.Moves.value_eq {tree moved : Expr} (moves : tree.Moves way moved) :
    moved.value = tree.value.mapError (Fault.move way.position) := by
  induction moves with
  | literal whole => rfl
  | @unaryNode sign operand _ _ _ _ _ own _ _ ih =>
    rw [value_unaryNode, value_unaryNode, ih]
    cases operand.value with
    | ok value => exact Sign.conclusion_moved own _
    | error fault => rfl
  | @binaryNode sign left right _ _ _ _ _ _ own _ _ _ first second =>
    rw [value_binaryNode, value_binaryNode, first, second]
    cases left.value with
    | error fault => rfl
    | ok one =>
      cases right.value with
      | error fault => rfl
      | ok other => exact Sign.conclusion_moved own _

/-! ## Runs -/

/-- Whether a cursor reads the tokens of another one at other places, and reaches a mark. -/
structure Cursor.Moves (way : Relocation) (cursor moved : Cursor) : Prop where
  rest : List.Forall₂ (Token.Moves way) cursor.rest moved.rest
  marked : cursor.Marked

namespace Cursor.Moves

variable {cursor moved : Cursor}

theorem note (moves : cursor.Moves way moved) (event other : Event) :
    (cursor.note event).Moves way (moved.note other) :=
  ⟨moves.rest, moves.marked⟩

theorem current (moves : cursor.Moves way moved) : cursor.current.Moves way moved.current := by
  obtain ⟨rest, log⟩ := cursor
  obtain ⟨others, otherLog⟩ := moved
  obtain ⟨related, mark, member, -⟩ := moves
  cases related with
  | nil => cases member
  | cons first others => exact first

theorem hasToken_eq (moves : cursor.Moves way moved) : moved.hasToken = cursor.hasToken := by
  rw [hasToken, hasToken, moves.current.kind]

theorem advance (moves : cursor.Moves way moved) : cursor.advance.Moves way moved.advance := by
  have kind := moves.current.kind
  by_cases ending : cursor.current.kind = .endOfInput
  case pos => rwa [advance_of_mark ending, advance_of_mark (kind.trans ending)]
  have related := moves.rest
  rw [rest_eq ending, rest_eq (kind.trans_ne ending), List.forall₂_cons] at related
  exact ⟨related.2, moves.marked.advance⟩

end Cursor.Moves

namespace Parser

/-- Whether a task is another one with the tree that it starts from at another place. -/
inductive Task.Moves (way : Relocation) : Task → Task → Prop where
  | expression (least : Nat) : Moves way (.expression least) (.expression least)
  | fold {left moved : Expr} (least : Nat) (trees : left.Moves way moved) :
      Moves way (.fold least left) (.fold least moved)
  | operand : Moves way .operand .operand
  | start (rule : OperandRule) : Moves way (.start rule) (.start rule)

/-- Whether an outcome is another one at another place. -/
inductive Outcome.Moves (way : Relocation) : Outcome → Outcome → Prop where
  | ok {tree moved : Expr} {after later : Cursor} (trees : tree.Moves way moved)
      (cursors : after.Moves way later) : Moves way (.ok tree after) (.ok moved later)
  | error {failure other : Failure} {after later : Cursor}
      (faults : other.fault = failure.fault.move way.position) :
      Moves way (.error failure after) (.error other later)

variable {rules : Rules} {limit depth : Nat} {task other : Task} {cursor moved : Cursor}
  {outcome : Outcome} {tree inner left right leftMoved rightMoved : Expr}

theorem unexpected_moved (cursors : cursor.Moves way moved) :
    moved.unexpected = cursor.unexpected.move way.position := by
  rw [Cursor.unexpected, Cursor.unexpected, cursors.current.kind, cursors.current.text,
    cursors.current.start]
  rfl

theorem tooDeep_moved (cursors : cursor.Moves way moved) (limit : Nat) :
    moved.tooDeep limit = (cursor.tooDeep limit).move way.position := by
  rw [Cursor.tooDeep, Cursor.tooDeep, cursors.current.start]
  rfl

theorem tooTall_moved (trees : tree.Moves way inner) (limit : Nat) :
    tooTall limit inner = (tooTall limit tree).move way.position := by
  rw [tooTall, tooTall, trees.blamed_eq]
  rfl

theorem negated_moves (cursors : cursor.Moves way moved) (trees : tree.Moves way inner) :
    (negated cursor tree).Moves way (negated moved inner) :=
  .unary cursors.current.span trees

theorem folded_moves (cursors : cursor.Moves way moved) (operator : Operator)
    (first : left.Moves way leftMoved) (second : right.Moves way rightMoved) :
    (folded cursor operator left right).Moves way
      (folded moved operator leftMoved rightMoved) :=
  .binary cursors.current.span first second

theorem Stops.moves {least : Nat} (stops : Stops rules least cursor)
    (cursors : cursor.Moves way moved) : Stops rules least moved := by
  intro power found
  rw [cursors.current.kind] at found
  exact stops power found

/-- Where tokens of the same kinds and texts are read, the same rules apply. -/
theorem Run.moves (run : Run rules limit task depth cursor outcome) (tasks : task.Moves way other)
    (cursors : cursor.Moves way moved) :
    ∃ result, Run rules limit other depth moved result ∧ outcome.Moves way result := by
  induction run generalizing other moved with
  | expressionTooDeep full =>
    cases tasks
    exact ⟨_, .expressionTooDeep full, .error (tooDeep_moved cursors limit)⟩
  | expressionFails room _ first =>
    cases tasks
    obtain ⟨_, read, _ | faults⟩ := first .operand cursors
    exact ⟨_, .expressionFails room read, .error faults⟩
  | expression room _ _ first others =>
    cases tasks
    obtain ⟨_, read, ⟨trees, after⟩⟩ := first .operand cursors
    obtain ⟨result, rest, ends⟩ := others (.fold _ trees) after
    exact ⟨result, .expression room read rest, ends⟩
  | operandMissing found =>
    cases tasks
    rw [← cursors.current.kind] at found
    exact ⟨_, .operandMissing found, .error (unexpected_moved cursors)⟩
  | operand found _ body =>
    cases tasks
    rw [← cursors.current.kind] at found
    obtain ⟨result, read, ends⟩ := body (.start _) cursors
    exact ⟨result, .operand found read, ends⟩
  | invalidNumber read =>
    cases tasks
    rw [← cursors.current.text] at read
    refine ⟨_, .invalidNumber read, .error ?_⟩
    rw [cursors.current.text, cursors.current.start]
    rfl
  | number read =>
    cases tasks
    rw [← cursors.current.text] at read
    exact ⟨_, .number read, .ok (.literal cursors.current.span) cursors.advance⟩
  | negationTooDeep full =>
    cases tasks
    exact ⟨_, .negationTooDeep full, .error (tooDeep_moved cursors limit)⟩
  | negationFails room _ inside =>
    cases tasks
    obtain ⟨_, read, _ | faults⟩ := inside .operand cursors.advance
    exact ⟨_, .negationFails room read, .error faults⟩
  | negationTooTall room _ tall inside =>
    cases tasks
    obtain ⟨_, read, ⟨trees, after⟩⟩ := inside .operand cursors.advance
    have built := negated_moves cursors trees
    rw [← built.height_eq] at tall
    exact ⟨_, .negationTooTall room read tall, .error (tooTall_moved built limit)⟩
  | negation room _ low inside =>
    cases tasks
    obtain ⟨_, read, ⟨trees, after⟩⟩ := inside .operand cursors.advance
    have built := negated_moves cursors trees
    rw [← built.height_eq] at low
    exact ⟨_, .negation room read low, .ok built after⟩
  | groupingFails _ inside =>
    cases tasks
    obtain ⟨_, read, _ | faults⟩ := inside (.expression _) cursors.advance
    exact ⟨_, .groupingFails read, .error faults⟩
  | groupingUnmatched _ unclosed inside =>
    cases tasks
    obtain ⟨_, read, ⟨trees, after⟩⟩ := inside (.expression _) cursors.advance
    rw [← after.current.kind] at unclosed
    refine ⟨_, .groupingUnmatched read unclosed, .error ?_⟩
    rw [after.current.start]
    rfl
  | grouping _ closed inside =>
    cases tasks
    obtain ⟨_, read, ⟨trees, after⟩⟩ := inside (.expression _) cursors.advance
    rw [← after.current.kind] at closed
    exact ⟨_, .grouping read closed, .ok trees after.advance⟩
  | foldStops loose =>
    obtain _ | ⟨_, trees⟩ := tasks
    exact ⟨_, .foldStops (loose.moves cursors), .ok trees cursors⟩
  | foldTooDeep found tight full =>
    obtain _ | ⟨_, trees⟩ := tasks
    rw [← cursors.current.kind] at found
    exact ⟨_, .foldTooDeep found tight full, .error (tooDeep_moved cursors limit)⟩
  | foldInvalid found tight room unknown =>
    obtain _ | ⟨_, trees⟩ := tasks
    rw [← cursors.current.kind] at found unknown
    refine ⟨_, .foldInvalid found tight room unknown, .error ?_⟩
    rw [cursors.current.text, cursors.current.start]
    rfl
  | foldFails found tight room known _ second =>
    obtain _ | ⟨_, trees⟩ := tasks
    rw [← cursors.current.kind] at found known
    obtain ⟨_, read, _ | faults⟩ := second (.expression _) cursors.advance
    exact ⟨_, .foldFails found tight room known read, .error faults⟩
  | @foldTooTall _ _ _ _ _ _ _ operator found tight room known _ tall second =>
    obtain _ | ⟨_, trees⟩ := tasks
    rw [← cursors.current.kind] at found known
    obtain ⟨_, read, ⟨right, after⟩⟩ := second (.expression _) cursors.advance
    have built := folded_moves cursors operator trees right
    rw [← built.height_eq] at tall
    exact ⟨_, .foldTooTall found tight room known read tall, .error (tooTall_moved built limit)⟩
  | @fold _ _ _ _ _ _ _ operator _ found tight room known _ low _ second others =>
    obtain _ | ⟨_, trees⟩ := tasks
    rw [← cursors.current.kind] at found known
    obtain ⟨_, read, ⟨right, after⟩⟩ := second (.expression _) cursors.advance
    have built := folded_moves cursors operator trees right
    rw [← built.height_eq] at low
    obtain ⟨result, rest, ends⟩ := others (.fold _ built) (after.note _ _)
    exact ⟨result, .fold found tight room known read low rest, ends⟩

end Parser

/-! ## Calculations -/

open Calculation (ending)

/-- Whether a result is another one at another place. -/
inductive Relocation.Agrees (way : Relocation) : Except Fault Expr → Except Fault Expr → Prop where
  | ok {tree moved : Expr} (trees : tree.Moves way moved) : Agrees way (.ok tree) (.ok moved)
  | error (fault : Fault) : Agrees way (.error fault) (.error (fault.move way.position))

section

open Calculator.Parser

variable {settings : Settings} {tokens others : List Token}

theorem Parser.Outcome.Moves.conclude {first second : Outcome} (outcomes : first.Moves way second)
    (trailing : Bool) : way.Agrees (ending (Parser.conclude trailing first))
      (ending (Parser.conclude trailing second)) := by
  cases outcomes with
  | error faults =>
    simp only [Parser.conclude, ending, faults]
    exact .error _
  | @ok _ _ after later trees cursors =>
    simp only [Parser.conclude, cursors.hasToken_eq]
    by_cases more : after.hasToken = true
    case neg =>
      simp only [more, ending]
      exact .ok trees
    cases trailing with
    | true =>
      simp only [more, if_true, ending]
      exact .ok trees
    | false =>
      simp only [more, if_true, ending, unexpected_moved cursors]
      exact .error _

/-- Tokens at other places are parsed into a tree, or into a fault, at other places. -/
theorem agrees_parseTokens (related : List.Forall₂ (Token.Moves way) (Token.terminated tokens)
    (Token.terminated others)) (log other : Array Event) :
    way.Agrees (ending ((parseTokens settings tokens).run log))
      (ending ((parseTokens settings others).run other)) := by
  let start : Cursor := ⟨Token.terminated tokens, log⟩
  let startMoved : Cursor := ⟨Token.terminated others, other⟩
  have cursors : start.Moves way startMoved := ⟨related, Token.exists_mark_terminated tokens⟩
  have same := cursors.hasToken_eq
  by_cases empty : Token.body tokens = []
  case pos =>
    have emptyMoved : Token.body others = [] := by
      apply Classical.byContradiction
      intro some
      rw [Cursor.hasToken_terminated_iff.mpr some] at same
      exact Cursor.hasToken_terminated_iff.mp same.symm empty
    rw [run_parseTokens_of_empty empty, run_parseTokens_of_empty emptyMoved]
    have position : startMoved.current.span.start = way.position start.current.span.start :=
      cursors.current.start
    change way.Agrees _ (.error ⟨.emptyExpression, startMoved.current.span.start⟩)
    rw [position]
    exact .error _
  case neg =>
    have emptyMoved : Token.body others ≠ [] := by
      rw [Cursor.hasToken_terminated_iff.mpr empty] at same
      exact Cursor.hasToken_terminated_iff.mp same
    obtain ⟨outcome, run⟩ := exists_run .standard settings.maxDepth
      (.expression BindingPower.lowest.precedence) 0 start
    obtain ⟨result, runMoved, outcomes⟩ := run.moves (.expression _) cursors
    rw [run_parseTokens empty run, run_parseTokens emptyMoved runMoved]
    exact outcomes.conclude settings.trailing

end

theorem Relocation.Agrees.eq_of_refl {first second : Except Fault Expr}
    (agrees : Relocation.refl.Agrees first second) : second = first := by
  cases agrees with
  | ok trees => rw [trees.eq_of_refl]
  | error fault => rfl

/-- The value that a result comes to is the same at another place. -/
theorem Relocation.Agrees.bind_value {first second : Except Fault Expr}
    (agrees : way.Agrees first second) :
    second.bind Expr.value = (first.bind Expr.value).mapError (Fault.move way.position) := by
  cases agrees with
  | ok trees => exact trees.value_eq
  | error fault => rfl

/-- What has been told before has no part in how tokens are parsed. -/
theorem yields_parseTokens (settings : Settings) (tokens : List Token) :
    (parseTokens settings tokens).Yields (parseTokens settings tokens).outcome := by
  intro log
  have related : List.Forall₂ (Token.Moves .refl) (Token.terminated tokens)
      (Token.terminated tokens) := by
    rw [List.forall₂_same]
    exact fun token _ => ⟨rfl, rfl, rfl⟩
  exact (agrees_parseTokens related #[] log).eq_of_refl

theorem yields_parse (settings : Settings) (source : String) : (parse settings source).Yields
    (parseTokens settings (Token.scan settings source)).outcome := by
  rw [← bind_pure (parseTokens settings (Token.scan settings source)).outcome]
  apply (Calculation.yields_modify _).bind_ok
  apply (Calculation.yields_note _).bind_ok
  apply (yields_parseTokens settings (Token.scan settings source)).bind
  intro tree
  exact (Calculation.yields_note (.parsed tree)).bind_ok (Calculation.yields_pure tree)

/-- The value of a text is that of the tree into which its tokens are parsed. -/
theorem calculate_eq (settings : Settings) (source : String) : calculate settings source =
    (parseTokens settings (Token.scan settings source)).outcome.bind Expr.value := by
  apply Calculation.Yields.outcome
  apply (yields_parse settings source).bind
  intro tree
  rw [← bind_pure tree.value]
  apply tree.yields_value.bind
  intro value
  exact (Calculation.yields_note (.finished value)).bind_ok (Calculation.yields_pure value)

theorem Token.terminated_scan (settings : Settings) (source : String) :
    terminated (scan settings source) = scan settings source := by
  rw [scan_eq]
  exact terminated_append_mark rfl _

/-- Texts with tokens of the same kinds and texts have the same value, or the same fault at another
position. -/
theorem calculate_of_moves {settings : Settings} {first second : Bool} {source other : String}
    (related : List.Forall₂ (Token.Moves way) (Token.scan (settings.withStrict first) source)
      (Token.scan (settings.withStrict second) other)) :
    calculate (settings.withStrict second) other =
      (calculate (settings.withStrict first) source).mapError (Fault.move way.position) := by
  rw [← Token.terminated_scan, ← Token.terminated_scan (settings.withStrict second)] at related
  rw [calculate_eq, calculate_eq]
  -- whether characters are kept is settled by now: the parser does not ask
  exact (agrees_parseTokens related #[] #[]).bind_value

end Calculator

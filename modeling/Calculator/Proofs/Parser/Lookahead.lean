import Calculator.Expr.Session
import Calculator.Proofs.Calculation.Outcome
import Calculator.Proofs.Parser.Run

/-!
# One token of lookahead

A run looks at the current token and at no other, and moves on token by token. So where it ends, it
has looked at the tokens that it has read and at the one that is current then, and whatever stands
behind that one could be anything else: two cursors that share these tokens end with the same tree
or the same failure, in front of their own remaining tokens (`Run.agrees`). A run never moves past a
mark for the end of the input, so nothing behind the first mark is ever looked at.
-/

namespace Calculator

/-! ## Cursors that share what they read -/

/-- Whether two cursors read the same tokens before the one comes to `stop` and the other to
`other`. -/
structure Cursor.Agrees (stop other : List Token) (cursor twin : Cursor) : Prop where
  shared : ∃ read, cursor.rest = read ++ stop ∧ twin.rest = read ++ other
  log : twin.log = cursor.log

namespace Cursor

variable {stop other : List Token} {cursor twin : Cursor}

/-- Where the tokens after the shared ones start alike, the current tokens are the same. -/
theorem Agrees.current (agrees : cursor.Agrees stop other twin)
    (alike : other.headD (Token.finish 0) = stop.headD (Token.finish 0)) :
    twin.current = cursor.current := by
  obtain ⟨⟨read, here, there⟩, -⟩ := agrees
  rw [Cursor.current, Cursor.current, here, there]
  cases read with
  | nil => exact alike
  | cons token read => rfl

/-- At the stop, only the tokens to come are different. -/
theorem Agrees.eq (agrees : cursor.Agrees stop other twin) (here : cursor.rest = stop) :
    twin = { cursor with rest := other } := by
  obtain ⟨⟨read, split, there⟩, log⟩ := agrees
  have nothing : read = [] := by simpa [here] using split
  rw [nothing, List.nil_append] at there
  rw [← there, ← log]

theorem Agrees.note (agrees : cursor.Agrees stop other twin) (event : Event) :
    (cursor.note event).Agrees stop other (twin.note event) := by
  refine ⟨agrees.shared, ?_⟩
  simp [Cursor.note, agrees.log]

/-- Both cursors read the token that they share, as long as the first does not read past its
stop. -/
theorem Agrees.advance (agrees : cursor.Agrees stop other twin)
    (alike : other.headD (Token.finish 0) = stop.headD (Token.finish 0))
    (behind : stop <:+ cursor.advance.rest) : cursor.advance.Agrees stop other twin.advance := by
  have current := agrees.current alike
  by_cases ending : cursor.current.kind = .endOfInput
  case pos =>
    rw [advance_of_mark ending, advance_of_mark (by rw [current, ending])]
    exact agrees
  obtain ⟨⟨read, here, there⟩, log⟩ := agrees
  have first := rest_eq ending
  have second : twin.rest = twin.current :: twin.advance.rest := rest_eq (by rwa [current])
  refine ⟨?_, by simpa [Cursor.advance, hasToken, current, ending] using log⟩
  cases read with
  | nil =>
    -- the stop would be one token longer than what is left
    rw [here, List.nil_append] at first
    have longer := congrArg List.length first
    have shorter := behind.length_le
    simp only [List.length_cons] at longer
    omega
  | cons token read =>
    rw [here, List.cons_append] at first
    rw [there, List.cons_append] at second
    exact ⟨read, (List.cons.inj first).2.symm, (List.cons.inj second).2.symm⟩

end Cursor

namespace Parser

/-- Whether two pieces of parsing end alike, at cursors that share what they read. -/
inductive Outcome.Agrees (stop other : List Token) : Outcome → Outcome → Prop where
  | ok {tree : Expr} {after later : Cursor} (cursors : after.Agrees stop other later) :
      Agrees stop other (.ok tree after) (.ok tree later)
  | error {failure same : Failure} {after later : Cursor} (equal : same = failure)
      (cursors : after.Agrees stop other later) :
      Agrees stop other (.error failure after) (.error same later)

variable {rules : Rules} {limit depth : Nat} {task : Task} {cursor twin : Cursor}
  {outcome : Outcome} {stop other : List Token}

theorem negated_eq {inner : Expr} (same : twin.current = cursor.current) :
    negated twin inner = negated cursor inner := by
  rw [negated, negated, same]

theorem folded_eq {operator : Operator} {left right : Expr}
    (same : twin.current = cursor.current) :
    folded twin operator left right = folded cursor operator left right := by
  rw [folded, folded, same]

/-- Where a run ends, no token has come back. -/
theorem Run.suffix (run : Run rules limit task depth cursor outcome) :
    outcome.cursor.rest <:+ cursor.rest := by
  refine run.keeps (P := fun place => place.rest <:+ cursor.rest) ?_ ?_ (List.suffix_refl _)
  · intro place behind
    exact place.advance_suffix.trans behind
  · intro place event behind
    exact behind

/-- A run that stops at some token is the same run on all tokens that agree up to that one. -/
theorem Run.agrees (alike : other.headD (Token.finish 0) = stop.headD (Token.finish 0))
    (run : Run rules limit task depth cursor outcome) (agrees : cursor.Agrees stop other twin)
    (behind : stop <:+ outcome.cursor.rest) :
    ∃ result, Run rules limit task depth twin result ∧ outcome.Agrees stop other result := by
  have current {cursor twin : Cursor} (agrees : cursor.Agrees stop other twin) :
      twin.current = cursor.current := agrees.current alike
  induction run generalizing twin with
  | expressionTooDeep full =>
    refine ⟨_, .expressionTooDeep full, .error ?_ agrees⟩
    simp [Cursor.tooDeep, current agrees]
  | expressionFails room _ first =>
    obtain ⟨_, read, ends⟩ := first agrees behind
    cases ends with
    | error equal cursors => exact ⟨_, .expressionFails room read, .error equal cursors⟩
  | expression room _ second first others =>
    obtain ⟨_, read, ⟨middle⟩⟩ := first agrees (behind.trans second.suffix)
    obtain ⟨result, rest, ends⟩ := others middle behind
    exact ⟨result, .expression room read rest, ends⟩
  | operandMissing found =>
    rw [← current agrees] at found
    refine ⟨_, .operandMissing found, .error ?_ agrees⟩
    simp [Cursor.unexpected, current agrees]
  | operand found _ body =>
    rw [← current agrees] at found
    obtain ⟨result, read, ends⟩ := body agrees behind
    exact ⟨result, .operand found read, ends⟩
  | invalidNumber read =>
    rw [← current agrees] at read
    refine ⟨_, .invalidNumber read, .error ?_ (agrees.advance alike behind)⟩
    simp [current agrees]
  | number read =>
    rw [← current agrees] at read
    refine ⟨_, .number read, ?_⟩
    rw [current agrees]
    exact .ok (agrees.advance alike behind)
  | negationTooDeep full =>
    refine ⟨_, .negationTooDeep full, .error ?_ agrees⟩
    simp [Cursor.tooDeep, current agrees]
  | negationFails room within inside =>
    have after := agrees.advance alike (behind.trans within.suffix)
    obtain ⟨_, read, ends⟩ := inside after behind
    cases ends with
    | error equal cursors => exact ⟨_, .negationFails room read, .error equal cursors⟩
  | negationTooTall room within tall inside =>
    have after := agrees.advance alike (behind.trans within.suffix)
    obtain ⟨_, read, ⟨cursors⟩⟩ := inside after behind
    refine ⟨_, .negationTooTall room read tall, .error ?_ cursors⟩
    simp [negated_eq (current agrees)]
  | negation room within low inside =>
    have after := agrees.advance alike (behind.trans within.suffix)
    obtain ⟨_, read, ⟨cursors⟩⟩ := inside after behind
    refine ⟨_, .negation room read low, ?_⟩
    rw [negated_eq (current agrees)]
    exact .ok cursors
  | groupingFails within inside =>
    have after := agrees.advance alike (behind.trans within.suffix)
    obtain ⟨_, read, ends⟩ := inside after behind
    cases ends with
    | error equal cursors => exact ⟨_, .groupingFails read, .error equal cursors⟩
  | groupingUnmatched within unclosed inside =>
    have after := agrees.advance alike (behind.trans within.suffix)
    obtain ⟨_, read, ⟨cursors⟩⟩ := inside after behind
    rw [← current cursors] at unclosed
    refine ⟨_, .groupingUnmatched read unclosed, .error ?_ cursors⟩
    simp [current cursors]
  | grouping within closed inside =>
    have after := agrees.advance alike
      ((behind.trans (Cursor.advance_suffix _)).trans within.suffix)
    obtain ⟨_, read, ⟨cursors⟩⟩ := inside after (behind.trans (Cursor.advance_suffix _))
    rw [← current cursors] at closed
    exact ⟨_, .grouping read closed, .ok (cursors.advance alike behind)⟩
  | foldStops loose =>
    refine ⟨_, .foldStops ?_, .ok agrees⟩
    intro power found
    rw [current agrees] at found
    exact loose power found
  | foldTooDeep found tight full =>
    rw [← current agrees] at found
    refine ⟨_, .foldTooDeep found tight full, .error ?_ agrees⟩
    simp [Cursor.tooDeep, current agrees]
  | foldInvalid found tight room unknown =>
    rw [← current agrees] at found unknown
    refine ⟨_, .foldInvalid found tight room unknown, .error ?_ (agrees.advance alike behind)⟩
    simp [current agrees]
  | foldFails found tight room known within second =>
    have after := agrees.advance alike (behind.trans within.suffix)
    rw [← current agrees] at found known
    obtain ⟨_, read, ends⟩ := second after behind
    cases ends with
    | error equal cursors =>
      exact ⟨_, .foldFails found tight room known read, .error equal cursors⟩
  | foldTooTall found tight room known within tall second =>
    have after := agrees.advance alike (behind.trans within.suffix)
    rw [← current agrees] at found known
    obtain ⟨_, read, ⟨cursors⟩⟩ := second after behind
    refine ⟨_, .foldTooTall found tight room known read tall, .error ?_ ?_⟩
    · simp [folded_eq (current agrees)]
    · rw [current agrees]
      exact cursors.note _
  | fold found tight room known within low rest second others =>
    have behindRight := behind.trans rest.suffix
    have after := agrees.advance alike (behindRight.trans within.suffix)
    rw [← current agrees] at found known
    obtain ⟨_, read, ⟨cursors⟩⟩ := second after behindRight
    obtain ⟨result, more, ends⟩ := others (cursors.note _) behind
    refine ⟨result, .fold found tight room known read low ?_, ends⟩
    rw [folded_eq (current agrees), current agrees]
    exact more

/-! ## Sessions -/

/-- Expressions that are read alike leave a session with the same reply and the same levels. -/
theorem Outcome.Agrees.act {session : Session} {least : Nat} {result : Outcome}
    (ends : outcome.Agrees stop other result) (here : outcome.cursor.rest = stop)
    (first : Run session.rules session.limit (.expression least) session.depth session.cursor
      outcome)
    (second : Run session.rules session.limit (.expression least) session.depth twin result) :
    let reading := session.act (.expression least)
    reading.2.cursor = outcome.cursor ∧
      { session with cursor := twin }.act (.expression least) =
        (reading.1, { reading.2 with cursor := { reading.2.cursor with rest := other } }) := by
  have one := run_perform first
  have two := run_perform second
  simp only [perform] at one two
  simp only [Session.act, Session.parse, one, two]
  cases ends with
  | ok cursors =>
    rw [cursors.eq here]
    exact ⟨rfl, rfl⟩
  | error equal cursors =>
    rw [cursors.eq here, equal]
    exact ⟨rfl, rfl⟩

/-- An expression is read in the same way from all tokens that start with those that are read and
the current one after them. -/
theorem exists_read (session : Session) (least : Nat) (marked : session.cursor.Marked) :
    let reading := session.act (.expression least)
    ∃ read stop, session.cursor.rest = read ++ stop ∧ stop ≠ [] ∧
      reading.2.cursor.rest = stop ∧
      ∀ other : List Token, other.headD (Token.finish 0) = stop.headD (Token.finish 0) →
        { session with cursor := { session.cursor with rest := read ++ other } }.act
            (.expression least) =
          (reading.1, { reading.2 with cursor := { reading.2.cursor with rest := other } }) := by
  intro reading
  obtain ⟨outcome, run⟩ := exists_run session.rules session.limit (.expression least)
    session.depth session.cursor
  have still : outcome.cursor.Marked := by
    apply run.keeps
    · intro place marked
      exact marked.advance
    · intro place event marked
      exact marked.note event
    · exact marked
  obtain ⟨read, split⟩ := run.suffix
  have shares (other : List Token) : session.cursor.Agrees outcome.cursor.rest other
      { session.cursor with rest := read ++ other } := ⟨⟨read, split.symm, rfl⟩, rfl⟩
  refine ⟨read, outcome.cursor.rest, split.symm, List.ne_nil_of_mem still.current_mem, ?_, ?_⟩
  · obtain ⟨result, again, ends⟩ := run.agrees rfl (shares _) (List.suffix_refl _)
    rw [(ends.act rfl run again).1]
  · intro other same
    obtain ⟨result, again, ends⟩ := run.agrees same (shares other) (List.suffix_refl _)
    exact (ends.act rfl run again).2

/-! ## Whole lists -/

/-- Whether something follows, and what it is, is told by the current token. -/
theorem Outcome.Agrees.conclude {result : Outcome} (ends : outcome.Agrees stop other result)
    (alike : other.headD (Token.finish 0) = stop.headD (Token.finish 0)) (trailing : Bool) :
    Parser.conclude trailing result = Parser.conclude trailing outcome := by
  cases ends with
  | error equal cursors => simp [Parser.conclude, equal, cursors.log]
  | ok cursors =>
    simp [Parser.conclude, Cursor.hasToken, Cursor.unexpected, cursors.current alike, cursors.log]

end Parser

open Calculator.Parser

/-- What follows a mark has no part in a parse. -/
theorem run_parseTokens_append_mark (settings : Settings) (before after : List Token) {mark : Token}
    (ending : mark.kind = .endOfInput) (log : Array Event) :
    (parseTokens settings (before ++ mark :: after)).run log =
      (parseTokens settings (before ++ [mark])).run log := by
  let start : Cursor := ⟨Token.terminated (before ++ mark :: after), log⟩
  let alone : Cursor := ⟨Token.terminated (before ++ [mark]), log⟩
  obtain ⟨more, given⟩ := Token.prefix_terminated (before ++ mark :: after)
  rw [List.append_assoc, List.cons_append] at given
  have agrees : start.Agrees (mark :: (after ++ more)) [mark] alone := by
    refine ⟨⟨before, given.symm, ?_⟩, rfl⟩
    exact Token.terminated_append_mark ending before
  have alike : [mark].headD (Token.finish 0) = (mark :: (after ++ more)).headD (Token.finish 0) := rfl
  by_cases empty : Token.body before = []
  case pos =>
    have none : Token.body (before ++ mark :: after) = [] := by
      rwa [Token.body_append_mark ending]
    have noneAlone : Token.body (before ++ [mark]) = [] := by
      rwa [Token.body_append_mark ending]
    rw [run_parseTokens_of_empty none, run_parseTokens_of_empty noneAlone]
    have current : alone.current = start.current := agrees.current alike
    change _ = EStateM.Result.error (Fault.mk .emptyExpression alone.current.span.start) log
    rw [current]
    rfl
  have some : Token.body (before ++ mark :: after) ≠ [] := by
    rwa [Token.body_append_mark ending]
  have someAlone : Token.body (before ++ [mark]) ≠ [] := by
    rwa [Token.body_append_mark ending]
  obtain ⟨outcome, run⟩ := exists_run .standard settings.maxDepth
    (.expression BindingPower.lowest.precedence) 0 start
  have ahead : mark :: (after ++ more) <:+ outcome.cursor.rest := by
    apply run.keeps (P := fun place => mark :: (after ++ more) <:+ place.rest)
    · intro place ahead
      exact Cursor.suffix_advance_of_mark ending ahead
    · intro place event ahead
      exact ahead
    · exact ⟨before, given⟩
  obtain ⟨result, again, ends⟩ := run.agrees alike agrees ahead
  rw [run_parseTokens some run, run_parseTokens someAlone again, ends.conclude alike]

/-- Lists that agree up to a place, and there too, are equal before it and go on with the same
token. -/
theorem Token.split_of_take {tokens others read stop : List Token} (split : tokens = read ++ stop)
    (some : stop ≠ [])
    (alike : others.take (read.length + 1) = tokens.take (read.length + 1)) :
    others = read ++ others.drop read.length ∧
      (others.drop read.length).headD (finish 0) = stop.headD (finish 0) := by
  obtain ⟨first, rest, rfl⟩ := List.exists_cons_of_ne_nil some
  have shared : tokens.take (read.length + 1) = read ++ [first] := by
    rw [split, List.take_length_add_append, List.take_succ_cons, List.take_zero]
  have whole := List.take_append_drop (read.length + 1) others
  rw [alike, shared, List.append_assoc] at whole
  have behind : [first] ++ others.drop (read.length + 1) = others.drop read.length := by
    have dropped := congrArg (List.drop read.length) whole
    rwa [List.drop_left] at dropped
  rw [← behind]
  exact ⟨whole.symm, rfl⟩

/-- An expression is read without a look beyond the token at which reading stops, whether it stops
with a tree or with a fault: any other tokens that agree up to that one are read with the same
reply, up to the same place and with the same number of open levels. And what follows a mark for the
end of the input has no part in a parse. -/
theorem act_expression_of_take :
    (∀ (settings : Settings) (rules : Rules) (tokens : List Token) (least : Nat),
      let reading := (Session.start settings rules tokens).act (.expression least)
      ∃ j < (Token.terminated tokens).length,
        reading.2.cursor.rest = (Token.terminated tokens).drop j ∧
        ∀ others, (Token.terminated others).take (j + 1) = (Token.terminated tokens).take (j + 1) →
          (Session.start settings rules others).act (.expression least) =
            (reading.1, { reading.2 with
              cursor := { reading.2.cursor with rest := (Token.terminated others).drop j } })) ∧
    ∀ (settings : Settings) (before after : List Token) (mark : Token) (log : Array Event),
      mark.kind = .endOfInput →
        (parseTokens settings (before ++ mark :: after)).run log =
          (parseTokens settings (before ++ [mark])).run log := by
  constructor
  · intro settings rules tokens least reading
    obtain ⟨read, stop, split, some, here, alike⟩ :=
      exists_read (Session.start settings rules tokens) least (Token.exists_mark_terminated tokens)
    have split : Token.terminated tokens = read ++ stop := split
    refine ⟨read.length, ?_, ?_, ?_⟩
    · have longer := List.length_pos_iff.mpr some
      rw [split, List.length_append]
      omega
    · rw [split, List.drop_left]
      exact here
    · intro others agree
      obtain ⟨whole, first⟩ := Token.split_of_take split some agree
      have read := alike _ first
      rw [← whole] at read
      exact read
  · intro settings before after mark log ending
    exact run_parseTokens_append_mark settings before after ending log

/-- `1+*2` and `1+*)` are at fault at the star, whatever follows it. -/
theorem act_expression_of_take_star :
    let tokens : List Token := [⟨.number, "1", ⟨0, 1⟩⟩, ⟨.plus, "+", ⟨1, 2⟩⟩, ⟨.star, "*", ⟨2, 3⟩⟩,
      ⟨.number, "2", ⟨3, 4⟩⟩]
    let others : List Token := [⟨.number, "1", ⟨0, 1⟩⟩, ⟨.plus, "+", ⟨1, 2⟩⟩, ⟨.star, "*", ⟨2, 3⟩⟩,
      ⟨.closeParen, ")", ⟨3, 4⟩⟩]
    let reading (tokens : List Token) := (Session.start {} .standard tokens).act (.expression 0)
    (Token.terminated others).take 3 = (Token.terminated tokens).take 3 ∧
      (reading tokens).2.cursor.rest = (Token.terminated tokens).drop 2 ∧
      (reading others).1 = (reading tokens).1 ∧ (reading others).2.depth = (reading tokens).2.depth ∧
      (reading others).2.cursor.rest = (Token.terminated others).drop 2 := by
  intro tokens others reading
  have agree : (Token.terminated others).take 3 = (Token.terminated tokens).take 3 := by decide
  have stops : (reading tokens).2.cursor.rest = (Token.terminated tokens).drop 2 := by
    decide +kernel
  obtain ⟨j, below, here, alike⟩ := act_expression_of_take.1 {} .standard tokens 0
  have place : j = 2 := by
    have lengths := congrArg List.length (here.symm.trans stops)
    have count : (Token.terminated tokens).length = 5 := by decide
    simp only [List.length_drop, count] at lengths below
    omega
  subst place
  have same : reading others = (_, _) := alike others agree
  rw [same]
  exact ⟨agree, stops, rfl, rfl, rfl⟩

end Calculator

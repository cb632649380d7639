import Calculator.Proofs.Parser.Relocation

/-!
# Positions are never inspected

A function on positions can be applied to both ends of every span before a list of tokens is parsed
or after it, and before a tree is evaluated or after it: the result is the same. The function need
not keep positions in order, nor keep two of them apart.
-/

namespace Calculator

variable {position : Nat → Nat}

/-- The span between the places of the two ends. -/
def Span.map (position : Nat → Nat) (span : Span) : Span :=
  ⟨position span.start, position span.stop⟩

/-- The token with the ends of its span elsewhere. -/
def Token.mapSpan (position : Nat → Nat) (token : Token) : Token :=
  { token with span := token.span.map position }

/-- The tree with the ends of all its spans elsewhere. Its heights stay as they are kept. -/
def Expr.mapSpans (position : Nat → Nat) : Expr → Expr
  | literal value span => .literal value (span.map position)
  | unaryNode sign operand span height =>
    .unaryNode ⟨sign.operator, sign.span.map position⟩ (operand.mapSpans position)
      (span.map position) height
  | binaryNode sign left right span height =>
    .binaryNode ⟨sign.operator, sign.span.map position⟩ (left.mapSpans position)
      (right.mapSpans position) (span.map position) height

/-- Both ends of a span go where the function sends them. -/
def Relocation.ofEnds (position : Nat → Nat) : Relocation where
  position := position
  Carries span place := place = span.map position
  start_eq := by
    rintro span _ rfl
    rfl
  join := by
    rintro first last _ _ rfl rfl
    rfl

theorem Expr.moves_mapSpans (position : Nat → Nat) (tree : Expr) :
    tree.Moves (.ofEnds position) (tree.mapSpans position) := by
  induction tree with
  | literal value span => exact .literal rfl
  | unaryNode sign operand span height ih => exact .unaryNode rfl ih rfl
  | binaryNode sign left right span height first second => exact .binaryNode rfl first second rfl

/-- A tree has one place only where the ends of its spans can go. -/
theorem Expr.Moves.eq_mapSpans {tree moved : Expr} (moves : tree.Moves (.ofEnds position) moved) :
    moved = tree.mapSpans position := by
  induction moves with
  | literal whole =>
    cases whole
    rfl
  | unaryNode own _ whole ih =>
    cases own
    cases whole
    rw [ih]
    rfl
  | binaryNode own _ _ whole first second =>
    cases own
    cases whole
    rw [first, second]
    rfl

theorem Relocation.Agrees.eq_mapSpans {first second : Except Fault Expr}
    (agrees : (Relocation.ofEnds position).Agrees first second) :
    second = (first.map (Expr.mapSpans position)).mapError (Fault.move position) := by
  cases agrees with
  | ok trees =>
    rw [trees.eq_mapSpans]
    rfl
  | error fault => rfl

/-- The mark that is added to a list of tokens stands at the end of the last one. Without a token it
stands at zero, wherever the function sends that. -/
theorem Token.terminated_map {tokens : List Token} (some : tokens ≠ []) :
    terminated (tokens.map (mapSpan position)) = (terminated tokens).map (mapSpan position) := by
  rw [terminated, terminated, List.getLast?_map, List.getLast?_eq_some_getLast some]
  by_cases ending : (tokens.getLast some).kind = .endOfInput
  · simp [ending, mapSpan]
  · simp [ending, mapSpan, finish, Span.point, Span.map]

/-- Parsing tokens whose positions are changed gives the tree, or the fault, with its positions
changed; and so does evaluating such a tree. -/
theorem outcome_parseTokens_map (position : Nat → Nat) :
    (∀ settings tokens, tokens ≠ [] →
      (parseTokens settings (tokens.map (Token.mapSpan position))).outcome =
        ((parseTokens settings tokens).outcome.map (Expr.mapSpans position)).mapError
          (Fault.move position)) ∧
    ∀ tree : Expr, (tree.mapSpans position).value = tree.value.mapError (Fault.move position) := by
  constructor
  · intro settings tokens some
    have related : List.Forall₂ (Token.Moves (.ofEnds position)) (Token.terminated tokens)
        (Token.terminated (tokens.map (Token.mapSpan position))) := by
      rw [Token.terminated_map some, List.forall₂_map_right_iff, List.forall₂_same]
      exact fun token _ => ⟨rfl, rfl, rfl⟩
    exact (agrees_parseTokens related #[] #[]).eq_mapSpans
  · intro tree
    exact (tree.moves_mapSpans position).value_eq

/-- Backwards, with the end of the last number where its division ends: a quotient by zero has its
fault where the operator is moved. -/
theorem outcome_parseTokens_map_backwards :
    let tokens : List Token :=
      [⟨.number, "1", ⟨0, 1⟩⟩, ⟨.slash, "/", ⟨2, 3⟩⟩, ⟨.number, "0", ⟨4, 5⟩⟩]
    let position : Nat → Nat := (8 - 2 * ·)
    tokens ≠ [] ∧
      (parseTokens {} (tokens.map (Token.mapSpan position))).outcome =
        .ok (.binary ⟨.div, ⟨4, 2⟩⟩ (.literal 1 ⟨8, 6⟩) (.literal 0 ⟨0, 0⟩)) ∧
      (Expr.binary ⟨.div, ⟨4, 2⟩⟩ (.literal 1 ⟨8, 6⟩) (.literal 0 ⟨0, 0⟩)).value =
        .error ⟨.divisionByZero, 4⟩ := by
  intro tokens position
  obtain ⟨parsed, valued⟩ := outcome_parseTokens_map position
  have some : tokens ≠ [] := List.cons_ne_nil _ _
  let tree : Expr := .binary ⟨.div, ⟨2, 3⟩⟩ (.literal 1 ⟨0, 1⟩) (.literal 0 ⟨4, 5⟩)
  have read : (parseTokens {} tokens).outcome = .ok tree := by decide +kernel
  have value : tree.value = .error ⟨.divisionByZero, 2⟩ := by decide +kernel
  refine ⟨some, ?_, ?_⟩
  · rw [parsed {} tokens some, read]
    rfl
  · refine (valued tree).trans ?_
    rw [value]
    rfl

end Calculator

import Calculator.Proofs.Grammar.Phrase
import Calculator.Proofs.Parser.Cutoff

/-!
# How many levels a phrase needs

A phrase that follows the rules is read whole if the limit admits its levels and its height, and
otherwise reading it is cut off. An operator folds its left operand in the same frame in which it
was read, so a chain that groups to the left opens no more levels as it grows, while each right
operand is read two levels up. The statement for operands (`ReadsOperand`) and the one for the
start of a longer expression (`ReadsStart`) are proved together, by induction on how the phrase
fits.
-/

namespace Calculator

/-- Whether the limit admits a phrase that is read while `depth` levels are open. -/
def Phrase.Within (limit depth : Nat) (phrase : Phrase) : Prop :=
  depth + phrase.peak ≤ limit ∧ phrase.tree.height ≤ limit

namespace Phrase

variable {limit depth : Nat} {left right inner : Phrase} {opening closing sign : Token}
  {operator : Operator}

theorem within_negation : (negation sign inner).Within limit depth ↔
    inner.Within limit (depth + 1) ∧ (negation sign inner).tree.height ≤ limit := by
  simp only [Within, peak, tree, Expr.height_unary]
  omega

theorem within_group : (group opening inner closing).Within limit depth ↔
    inner.Within limit (depth + 1) := by
  simp only [Within, peak, tree]
  omega

theorem within_operation : (operation left operator sign right).Within limit depth ↔
    left.Within limit depth ∧ depth + 2 ≤ limit ∧ right.Within limit (depth + 2) ∧
      (operation left operator sign right).tree.height ≤ limit := by
  simp only [Within, peak, tree, Expr.height_binary]
  omega

end Phrase

theorem Cursor.advance_word {token : Token} (word : token.kind ≠ .endOfInput) (rest : List Token)
    (log : Array Event) : (Cursor.mk (token :: rest) log).advance = ⟨rest, log⟩ := by
  rw [advance_cons, if_neg word]

namespace Parser

variable {rules : Rules} {limit level : Nat}

/-- Whether a run ends with the tree before the rest if the limit admits it, and is cut off
otherwise. -/
def EndsWithin (within : Prop) (run : Outcome → Prop) (tree : Expr) (rest : List Token) : Prop :=
  (within ∧ ∃ log, run (.ok tree ⟨rest, log⟩)) ∨
  (¬ within ∧ ∃ failure after, run (.error failure after) ∧ CutOff (.error failure after))

/-- Whether every operator at the start of the rest can take a phrase of a level as its left
operand. -/
def Follows (rules : Rules) (level : Nat) (rest : List Token) : Prop :=
  ∀ power, rules.power (rest.headD (Token.finish 0)).kind = some power →
    power.leftPrecedence ≤ level

/-- The phrase is read as an operand, exactly if the limit admits it. -/
def ReadsOperand (rules : Rules) (limit : Nat) (phrase : Phrase) : Prop :=
  ∀ depth rest log, depth < limit → EndsWithin (phrase.Within limit (depth + 1))
    (Run rules limit .operand (depth + 1) ⟨phrase.tokens ++ rest, log⟩) phrase.tree rest

/-- The phrase is read as an expression, exactly if the limit admits it. -/
def ReadsExpression (rules : Rules) (limit least : Nat) (phrase : Phrase) : Prop :=
  ∀ depth rest log, Stops rules least ⟨rest, log⟩ →
    EndsWithin (phrase.Within limit (depth + 1))
      (Run rules limit (.expression least) depth ⟨phrase.tokens ++ rest, log⟩) phrase.tree rest

/-- The phrase is read at the start of an expression, exactly if the limit admits it, and from
there on the expression goes on by folding into the phrase's tree. -/
def ReadsStart (rules : Rules) (limit level : Nat) (phrase : Phrase) : Prop :=
  ∀ least ≤ level, ∀ depth rest log, depth < limit → Follows rules level rest →
    (phrase.Within limit (depth + 1) ∧ ∃ later, ∀ outcome,
      Run rules limit (.fold least phrase.tree) (depth + 1) ⟨rest, later⟩ outcome →
      Run rules limit (.expression least) depth ⟨phrase.tokens ++ rest, log⟩ outcome) ∨
    (¬ phrase.Within limit (depth + 1) ∧ ∃ failure after,
      Run rules limit (.expression least) depth ⟨phrase.tokens ++ rest, log⟩
        (.error failure after) ∧ CutOff (.error failure after))

section Operands

variable {opening closing sign token : Token} {inner phrase : Phrase} {value : Float}

theorem readsOperand_number (plain : rules.operand .endOfInput = none)
    (found : rules.operand token.kind = some .number)
    (read : Decimal.read? token.text = some value) :
    ReadsOperand rules limit (.number token value) := by
  intro depth rest log room
  refine .inl ⟨⟨room, Nat.lt_of_le_of_lt (Nat.zero_le depth) room⟩, log, ?_⟩
  have run : Run rules limit (.start .number) (depth + 1) ⟨token :: rest, log⟩ _ := .number read
  rw [Cursor.advance_word (Rules.kind_ne_of_operand plain found)] at run
  exact .operand found run

theorem readsOperand_negation (plain : rules.operand .endOfInput = none)
    (found : rules.operand sign.kind = some .negation) (inside : ReadsOperand rules limit inner) :
    ReadsOperand rules limit (.negation sign inner) := by
  intro depth rest log room
  rw [EndsWithin, Phrase.within_negation]
  by_cases deeper : depth + 1 < limit
  case neg =>
    have cut : Run rules limit .operand (depth + 1) ⟨sign :: (inner.tokens ++ rest), log⟩ _ :=
      .operand found (.negationTooDeep (Nat.le_of_not_lt deeper))
    refine .inr ⟨fun within => ?_, _, _, cut, limit, rfl⟩
    have peak := within.1.1
    omega
  have read := inside (depth + 1) rest log deeper
  rw [← Cursor.advance_word (Rules.kind_ne_of_operand plain found) (inner.tokens ++ rest)] at read
  rcases read with ⟨within, later, run⟩ | ⟨without, failure, after, run, cut⟩
  · by_cases low : (Phrase.negation sign inner).tree.height ≤ limit
    · exact .inl ⟨⟨within, low⟩, later, .operand found (.negation deeper run low)⟩
    · have tall := Run.negationTooTall deeper run (Nat.lt_of_not_le low)
      exact .inr ⟨fun within => low within.2, _, _, .operand found tall, limit, rfl⟩
  · have fails := Run.negationFails deeper run
    exact .inr ⟨fun within => without within.1, failure, after, .operand found fails, cut⟩

theorem readsOperand_group (plain : rules.operand .endOfInput = none)
    (found : rules.operand opening.kind = some .grouping) (closed : closing.kind = .closeParen)
    (inside : ReadsExpression rules limit 0 inner) (unbound : rules.power .closeParen = none) :
    ReadsOperand rules limit (.group opening inner closing) := by
  intro depth rest log room
  rw [EndsWithin, Phrase.within_group]
  have stops : Stops rules 0 ⟨closing :: rest, log⟩ := by
    intro power bound
    rw [Cursor.current_cons, closed, unbound] at bound
    cases bound
  have read := inside (depth + 1) (closing :: rest) log stops
  rw [← Cursor.advance_word (Rules.kind_ne_of_operand plain found)
    (inner.tokens ++ closing :: rest)] at read
  have split : (Phrase.group opening inner closing).tokens ++ rest =
      opening :: (inner.tokens ++ closing :: rest) := by
    simp [Phrase.tokens]
  rw [split]
  rcases read with ⟨within, later, run⟩ | ⟨without, failure, after, run, cut⟩
  · have whole := Run.grouping run closed
    rw [Cursor.advance_word (by rw [closed]; decide)] at whole
    exact .inl ⟨within, later, .operand found whole⟩
  · exact .inr ⟨without, failure, after, .operand found (.groupingFails run), cut⟩

end Operands

section Expressions

variable {left right phrase : Phrase} {operator : Operator} {sign : Token} {power : BindingPower}

theorem ReadsOperand.start (operand : ReadsOperand rules limit phrase) :
    ReadsStart rules limit level phrase := by
  intro least _ depth rest log room _
  rcases operand depth rest log room with ⟨within, later, run⟩ | ⟨without, failure, after, run, cut⟩
  · exact .inl ⟨within, later, fun outcome others => .expression room run others⟩
  · exact .inr ⟨without, failure, after, .expressionFails room run, cut⟩

/-- An expression that stops after a phrase is the phrase. -/
theorem ReadsStart.expression (start : ReadsStart rules limit level phrase) :
    ReadsExpression rules limit level phrase := by
  intro depth rest log stops
  by_cases room : depth < limit
  case neg =>
    refine .inr ⟨fun within => ?_, _, _, .expressionTooDeep (Nat.le_of_not_lt room), limit, rfl⟩
    have peak := within.1
    omega
  have follows : Follows rules level rest := fun power bound =>
    BindingPower.leftPrecedence_le_of_lt (stops power bound)
  rcases start level (Nat.le_refl level) depth rest log room follows with
    ⟨within, later, go⟩ | failed
  · exact .inl ⟨within, later, go _ (.foldStops stops)⟩
  · exact .inr failed

/-- Folding an operator reads its right operand two levels up. -/
theorem readsStart_operation (written : sign.kind = operator.kind)
    (found : rules.power sign.kind = some power) (tight : level ≤ power.precedence)
    (first : ReadsStart rules limit power.leftPrecedence left)
    (second : ReadsExpression rules limit power.rightPrecedence right) :
    ReadsStart rules limit level (.operation left operator sign right) := by
  intro least le depth rest log room follows
  rw [Phrase.within_operation]
  have split : (Phrase.operation left operator sign right).tokens ++ rest =
      left.tokens ++ sign :: (right.tokens ++ rest) := by
    simp [Phrase.tokens]
  rw [split]
  have word : sign.kind ≠ .endOfInput := by
    rw [written]
    exact operator.kind_ne_endOfInput
  have known : Operator.ofKind? sign.kind = some operator :=
    Operator.ofKind?_eq_some_iff.mpr written
  have takes : Follows rules power.leftPrecedence (sign :: (right.tokens ++ rest)) := by
    intro other bound
    obtain rfl := Option.some.inj (found.symm.trans bound)
    exact Nat.le_refl _
  have tightest : least ≤ power.precedence := Nat.le_trans le tight
  have below : least ≤ power.leftPrecedence :=
    Nat.le_trans tightest power.precedence_le_leftPrecedence
  -- the left operand is read first, and cuts off before the operator is reached
  rcases first least below depth _ log room takes with ⟨within, middle, go⟩ | failed
  case inr =>
    obtain ⟨without, failure, after, run, cut⟩ := failed
    exact .inr ⟨fun whole => without whole.1, failure, after, run, cut⟩
  by_cases deeper : depth + 1 < limit
  case neg =>
    have cut := go _ (.foldTooDeep found tightest (Nat.le_of_not_lt deeper))
    refine .inr ⟨fun whole => ?_, _, _, cut, limit, rfl⟩
    have two := whole.2.1
    omega
  -- what can take the whole operation as its left operand stops the right operand
  have stops : Stops rules power.rightPrecedence ⟨rest, middle⟩ := fun next bound =>
    BindingPower.lt_rightPrecedence_iff.mpr (Nat.le_trans (follows next bound) tight)
  have read := second (depth + 2) rest middle stops
  rw [← Cursor.advance_word word (right.tokens ++ rest)] at read
  rcases read with ⟨withinRight, later, run⟩ | ⟨without, failure, after, run, cut⟩
  · by_cases low : (Phrase.operation left operator sign right).tree.height ≤ limit
    · have two : depth + 1 + 2 ≤ limit := Nat.le_trans (Nat.le_add_right _ _) withinRight.1
      exact .inl ⟨⟨within, two, withinRight, low⟩, _, fun outcome others =>
        go outcome (.fold found tightest deeper known run low others)⟩
    · have tall := go _ (.foldTooTall found tightest deeper known run (Nat.lt_of_not_le low))
      exact .inr ⟨fun whole => low whole.2.2.2, _, _, tall, limit, rfl⟩
  · have fails := go _ (.foldFails found tightest deeper known run)
    exact .inr ⟨fun whole => without whole.2.2.1, failure, after, fails, cut⟩

/-- Every phrase that fits is read exactly if the limit admits it. -/
theorem reads_of_fits (plain : rules.operand .endOfInput = none)
    (unbound : rules.power .closeParen = none) (fits : phrase.Fits rules level) :
    (phrase.IsOperand → ReadsOperand rules limit phrase) ∧ ReadsStart rules limit level phrase := by
  induction fits with
  | number found read =>
    have operand : ReadsOperand rules limit _ := readsOperand_number plain found read
    exact ⟨fun _ => operand, operand.start⟩
  | negation found single _ ih =>
    have operand := readsOperand_negation plain found (ih.1 single)
    exact ⟨fun _ => operand, operand.start⟩
  | group found _ closed ih =>
    have operand := readsOperand_group plain found closed ih.2.expression unbound
    exact ⟨fun _ => operand, operand.start⟩
  | operation written found tight _ _ first second =>
    exact ⟨False.elim, readsStart_operation written found tight first.2 second.2.expression⟩

end Expressions

end Parser

/-! ## Whole lists of tokens -/

/-- Whether tokens are parsed to a tree under every limit that admits a number of levels, and are
cut off under every lower one. -/
def NeedsLevels (tokens : List Token) (tree : Expr) (levels : Nat) : Prop :=
  ∀ settings : Settings,
    (levels ≤ settings.maxDepth → (parseTokens settings tokens).outcome = .ok tree) ∧
    (settings.maxDepth < levels → ∃ position,
      (parseTokens settings tokens).outcome = .error ⟨.nestingTooDeep settings.maxDepth, position⟩)

theorem Phrase.tokens_ne_nil (phrase : Phrase) : phrase.tokens ≠ [] := by
  cases phrase <;> simp [tokens]

theorem Phrase.within_iff_levels_le {limit : Nat} {phrase : Phrase} :
    phrase.Within limit 1 ↔ phrase.levels ≤ limit := by
  simp only [Within, levels]
  omega

theorem Parser.stops_mark {mark : Token} (ending : mark.kind = .endOfInput) (least : Nat)
    (after : List Token) (log : Array Event) : Stops .standard least ⟨mark :: after, log⟩ := by
  intro power bound
  rw [Cursor.current_cons, ending] at bound
  cases bound

section

open Calculator.Parser

variable {tokens : List Token} {phrase : Phrase}

theorem exists_run_of_derives (derived : Derives .expr phrase)
    (written : Token.body tokens = phrase.tokens) (limit : Nat) (log : Array Event) :
    ∃ mark after, mark.kind = .endOfInput ∧
      EndsWithin (phrase.levels ≤ limit)
        (Run .standard limit (.expression BindingPower.lowest.precedence) 0
          ⟨Token.terminated tokens, log⟩) phrase.tree (mark :: after) := by
  obtain ⟨mark, after, ending, split⟩ := Token.terminated_eq tokens
  have read : ReadsExpression .standard limit 0 phrase :=
    (reads_of_fits rfl rfl (derives_expr_iff.mp derived)).2.expression
  have ends := read 0 (mark :: after) log (stops_mark ending 0 after log)
  rw [Phrase.within_iff_levels_le, ← written, ← split] at ends
  exact ⟨mark, after, ending, ends⟩

/-- A derived body needs the levels of its phrase, no more and no less. -/
theorem Derives.needsLevels (derived : Derives .expr phrase)
    (written : Token.body tokens = phrase.tokens) :
    NeedsLevels tokens phrase.tree phrase.levels := by
  intro settings
  have some : Token.body tokens ≠ [] := by
    rw [written]
    exact phrase.tokens_ne_nil
  obtain ⟨mark, after, ending, ends⟩ := exists_run_of_derives derived written settings.maxDepth #[]
  rcases ends with ⟨within, log, run⟩ | ⟨without, failure, stop, run, limit, cut⟩
  · refine ⟨fun _ => ?_, fun below => absurd within (Nat.not_le.mpr below)⟩
    have read : (parseTokens settings tokens).run #[] = .ok phrase.tree log := by
      rw [run_parseTokens some run]
      simp [conclude, Cursor.hasToken, ending]
    rw [Calculation.outcome, read]
  · refine ⟨fun enough => absurd enough without, fun _ => ⟨failure.fault.position, ?_⟩⟩
    obtain rfl := run.eq_limit rfl cut
    rw [Calculation.outcome, run_parseTokens some run, ← cut]
    rfl

end

/-! ## Chains of numbers -/

/-- Whether a token is a number whose text can be read. -/
def Token.IsLiteral (token : Token) : Prop :=
  token.kind = .number ∧ (Decimal.read? token.text).isSome

instance (token : Token) : Decidable token.IsLiteral := inferInstanceAs (Decidable (_ ∧ _))

/-- The tokens of a number and of further signs, each with the number after it. -/
def chain (first : Token) (others : List (Token × Token)) : List Token :=
  first :: others.flatMap fun other => [other.1, other.2]

theorem Token.IsLiteral.derives {token : Token} (literal : token.IsLiteral) :
    ∃ value, Derives .primary (.number token value) := by
  obtain ⟨value, read⟩ := Option.isSome_iff_exists.mp literal.2
  exact ⟨value, .number literal.1 read⟩

/-- A chain of carets groups to the right, so that each caret opens two levels above the last. -/
theorem exists_caretChain {first : Token} {others : List (Token × Token)}
    (literal : first.IsLiteral)
    (carets : ∀ other ∈ others, other.1.kind = .caret ∧ other.2.IsLiteral) :
    ∃ phrase, Derives .power phrase ∧ phrase.tokens = chain first others ∧
      phrase.peak = 2 * others.length ∧ phrase.tree.height = others.length + 1 := by
  induction others generalizing first with
  | nil =>
    obtain ⟨value, derived⟩ := literal.derives
    exact ⟨.number first value, .unary (.primary derived), rfl, rfl, rfl⟩
  | cons other others ih =>
    obtain ⟨value, derived⟩ := literal.derives
    obtain ⟨written, next⟩ := carets other List.mem_cons_self
    obtain ⟨right, second, spelled, peak, height⟩ :=
      ih next fun later member => carets later (List.mem_cons_of_mem other member)
    refine ⟨_, .raise written (.primary derived) second, ?_, ?_, ?_⟩
    · rw [Phrase.tokens, spelled]
      rfl
    · simp only [Phrase.peak, peak, List.length_cons]
      omega
    · simp only [Phrase.tree, Expr.height_binary, Expr.height_literal, height, List.length_cons]
      omega

/-- A chain of pluses groups to the left, so that each plus adds to the height of the tree, and
only the first opens levels that were not open before. -/
theorem exists_plusChain {start : Phrase} {others : List (Token × Token)}
    (derived : Derives .expr start) (high : 0 < start.tree.height)
    (pluses : ∀ other ∈ others, other.1.kind = .plus ∧ other.2.IsLiteral) :
    ∃ phrase, Derives .expr phrase ∧
      phrase.tokens = start.tokens ++ others.flatMap (fun other => [other.1, other.2]) ∧
      phrase.peak ≤ max start.peak 2 ∧
      phrase.tree.height = start.tree.height + others.length := by
  induction others generalizing start with
  | nil =>
    exact ⟨start, derived, by simp, by omega, rfl⟩
  | cons other others ih =>
    obtain ⟨written, next⟩ := pluses other List.mem_cons_self
    obtain ⟨value, second⟩ := next.derives
    have longer := Derives.sum (.inl rfl) written derived (.power (.unary (.primary second)))
    have taller : (Phrase.operation start .add other.1 (.number other.2 value)).tree.height =
        start.tree.height + 1 := by
      simp only [Phrase.tree, Expr.height_binary, Expr.height_literal]
      omega
    obtain ⟨phrase, whole, spelled, peak, height⟩ := ih longer (by omega)
      fun later member => pluses later (List.mem_cons_of_mem other member)
    refine ⟨phrase, whole, ?_, ?_, ?_⟩
    · rw [spelled]
      simp [Phrase.tokens]
    · simp only [Phrase.peak] at peak
      omega
    · rw [height, taller, List.length_cons]
      omega

/-- A derived list of tokens is parsed to the tree of its phrase under every limit that admits
the levels of the phrase, and is cut off under every other. A chain of `m` numbers joined by carets
needs `2 * m - 1` levels, and one of three or more joined by pluses needs `m`. -/
theorem needsLevels_of_derives :
    (∀ phrase tokens, Derives .expr phrase → Token.body tokens = phrase.tokens →
      NeedsLevels tokens phrase.tree (max (1 + phrase.peak) phrase.tree.height)) ∧
    (∀ first others tokens, first.IsLiteral →
      (∀ other ∈ others, other.1.kind = .caret ∧ other.2.IsLiteral) →
      Token.body tokens = chain first others →
      ∃ phrase, Derives .expr phrase ∧ phrase.tokens = chain first others ∧
        NeedsLevels tokens phrase.tree (2 * (others.length + 1) - 1)) ∧
    (∀ first others tokens, first.IsLiteral →
      (∀ other ∈ others, other.1.kind = .plus ∧ other.2.IsLiteral) →
      Token.body tokens = chain first others → 3 ≤ others.length + 1 →
      ∃ phrase, Derives .expr phrase ∧ phrase.tokens = chain first others ∧
        NeedsLevels tokens phrase.tree (others.length + 1)) := by
  refine ⟨fun phrase tokens derived written => derived.needsLevels written, ?_, ?_⟩
  · intro first others tokens literal carets written
    obtain ⟨phrase, power, spelled, peak, height⟩ := exists_caretChain literal carets
    have derived : Derives .expr phrase := .term (.power power)
    have levels : phrase.levels = 2 * (others.length + 1) - 1 := by
      simp only [Phrase.levels, peak, height]
      omega
    refine ⟨phrase, derived, spelled, ?_⟩
    rw [← levels]
    exact derived.needsLevels (written.trans spelled.symm)
  · intro first others tokens literal pluses written three
    obtain ⟨value, start⟩ := literal.derives
    obtain ⟨phrase, derived, spelled, peak, height⟩ :=
      exists_plusChain (.term (.power (.unary (.primary start)))) Nat.one_pos pluses
    have levels : phrase.levels = others.length + 1 := by
      simp only [Phrase.peak] at peak
      simp only [Phrase.levels, height, Phrase.tree, Expr.height_literal]
      omega
    refine ⟨phrase, derived, spelled, ?_⟩
    rw [← levels]
    exact derived.needsLevels (written.trans spelled.symm)

/-- The tokens of `-2`, `2^3` and `2+3+5`. -/
theorem needsLevels_of_short_derivations :
    NeedsLevels [⟨.dash, "-", ⟨0, 1⟩⟩, ⟨.number, "2", ⟨1, 2⟩⟩]
      (.unary ⟨.sub, ⟨0, 1⟩⟩ (.literal (.ofScientific 2 false 0) ⟨1, 2⟩)) 2 ∧
    (∃ phrase, Derives .expr phrase ∧ phrase.tokens =
        chain ⟨.number, "2", ⟨0, 1⟩⟩ [(⟨.caret, "^", ⟨1, 2⟩⟩, ⟨.number, "3", ⟨2, 3⟩⟩)] ∧
      NeedsLevels (chain ⟨.number, "2", ⟨0, 1⟩⟩
        [(⟨.caret, "^", ⟨1, 2⟩⟩, ⟨.number, "3", ⟨2, 3⟩⟩)]) phrase.tree 3) ∧
    (∃ phrase, Derives .expr phrase ∧ phrase.tokens =
        chain ⟨.number, "2", ⟨0, 1⟩⟩ [(⟨.plus, "+", ⟨1, 2⟩⟩, ⟨.number, "3", ⟨2, 3⟩⟩),
          (⟨.plus, "+", ⟨3, 4⟩⟩, ⟨.number, "5", ⟨4, 5⟩⟩)] ∧
      NeedsLevels (chain ⟨.number, "2", ⟨0, 1⟩⟩ [(⟨.plus, "+", ⟨1, 2⟩⟩, ⟨.number, "3", ⟨2, 3⟩⟩),
          (⟨.plus, "+", ⟨3, 4⟩⟩, ⟨.number, "5", ⟨4, 5⟩⟩)]) phrase.tree 3) := by
  obtain ⟨derived, carets, pluses⟩ := needsLevels_of_derives
  have negation : Derives .expr (.negation ⟨.dash, "-", ⟨0, 1⟩⟩
      (.number ⟨.number, "2", ⟨1, 2⟩⟩ (.ofScientific 2 false 0))) :=
    .term (.power (.unary (.negation rfl (.primary (.number rfl rfl)))))
  refine ⟨derived _ _ negation rfl, ?_, ?_⟩
  · exact carets _ _ _ (by decide) (by decide) rfl
  · exact pluses _ _ _ (by decide) (by decide) rfl (by decide)

end Calculator

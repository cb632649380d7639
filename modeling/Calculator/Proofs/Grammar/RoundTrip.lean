import Calculator.Proofs.Grammar.Acceptance

/-!
# Writing an expression and reading it back

A formula is an expression without places. `Formula.words` writes it with each operator between its
operands, and puts an operand between parentheses if its outermost operator would not hold it
together otherwise. What is written so is read back as the tree of the formula, at whatever places
the words stand, and nothing shorter is read as this tree (`Formula.parse_words`).

For the proof an operand without operators outside of parentheses counts as tighter than any
operator. Then an operand needs parentheses exactly if it is not as tight as its place asks for.
-/

namespace Calculator

/-! ## Trees without places -/

namespace Expr

/-- The tree with every span set to the same one. -/
def bare : Expr → Expr
  | literal value _ => literal value default
  | unaryNode sign operand _ height => unaryNode ⟨sign.operator, default⟩ operand.bare default height
  | binaryNode sign left right _ height =>
    binaryNode ⟨sign.operator, default⟩ left.bare right.bare default height

variable {sign other : Sign} {tree moved left right leftMoved rightMoved : Expr}

@[simp] theorem height_bare (tree : Expr) : tree.bare.height = tree.height := by
  cases tree <;> rfl

theorem height_eq_of_bare_eq (same : tree.bare = moved.bare) : tree.height = moved.height := by
  rw [← height_bare tree, same, height_bare]

theorem bare_unary_eq_iff : (unary sign tree).bare = (unary other moved).bare ↔
    sign.operator = other.operator ∧ tree.bare = moved.bare := by
  simp only [unary, bare, unaryNode.injEq, Sign.mk.injEq, and_true, true_and]
  constructor
  · rintro ⟨operator, same, -⟩
    exact ⟨operator, same⟩
  · rintro ⟨operator, same⟩
    exact ⟨operator, same, congrArg (· + 1) (height_eq_of_bare_eq same)⟩

theorem bare_binary_eq_iff : (binary sign left right).bare = (binary other leftMoved rightMoved).bare ↔
    sign.operator = other.operator ∧ left.bare = leftMoved.bare ∧ right.bare = rightMoved.bare := by
  simp only [binary, bare, binaryNode.injEq, Sign.mk.injEq, and_true, true_and]
  constructor
  · rintro ⟨operator, first, second, -⟩
    exact ⟨operator, first, second⟩
  · rintro ⟨operator, first, second⟩
    refine ⟨operator, first, second, ?_⟩
    rw [height_eq_of_bare_eq first, height_eq_of_bare_eq second]

end Expr

/-! ## Formulas -/

/-- An expression without places, with the text that each of its numbers is written with. -/
inductive Formula where
  | number (text : String)
  | negation (operand : Formula)
  | operation (operator : Operator) (left right : Formula)

/-- A token without its place. -/
abbrev Word := Token.Kind × String

def Token.word (token : Token) : Word := (token.kind, token.text)

/-- Words between parentheses, if these are needed. -/
def enclose (needed : Bool) (words : List Word) : List Word :=
  if needed then (.openParen, "(") :: words ++ [(.closeParen, ")")] else words

theorem length_enclose (needed : Bool) (words : List Word) :
    (enclose needed words).length = words.length + if needed then 2 else 0 := by
  cases needed <;> simp [enclose]

namespace Formula

/-- Whether a tree is that of the formula, at any places. -/
inductive Denotes : Formula → Expr → Prop where
  | number {text : String} {value : Float} {span : Span} (read : Decimal.read? text = some value) :
      Denotes (.number text) (.literal value span)
  | negation {operand : Formula} {tree : Expr} {place : Span} (inner : Denotes operand tree) :
      Denotes (.negation operand) (.unary ⟨.sub, place⟩ tree)
  | operation {operator : Operator} {left right : Formula} {leftTree rightTree : Expr}
      {place : Span} (first : Denotes left leftTree) (second : Denotes right rightTree) :
      Denotes (.operation operator left right) (.binary ⟨operator, place⟩ leftTree rightTree)

def isOperation : Formula → Bool
  | operation _ _ _ => true
  | _ => false

/-- Whether the left operand of an operator needs parentheses: if it is looser, and always if the
operator groups to the right. -/
def enclosedLeft (operator : Operator) : Formula → Bool
  | operation inner _ _ =>
    operator == .pow || inner.power.precedence < operator.power.precedence
  | _ => false

/-- Whether the right operand of an operator needs parentheses: if it is looser, and also if it is
as tight unless the operator groups to the right. -/
def enclosedRight (operator : Operator) : Formula → Bool
  | operation inner _ _ =>
    inner.power.precedence < operator.power.precedence ||
      (inner.power.precedence == operator.power.precedence && operator != .pow)
  | _ => false

/-- The formula with operators between their operands, and with no more parentheses than needed. -/
def words : Formula → List Word
  | number text => [(.number, text)]
  | negation operand => (.dash, "-") :: enclose operand.isOperation operand.words
  | operation operator left right =>
    enclose (left.enclosedLeft operator) left.words ++
      (operator.kind, operator.symbol) :: enclose (right.enclosedRight operator) right.words

/-- How tight the formula is: as its outermost operator, or above all of them. -/
def level : Formula → Nat
  | operation operator _ _ => operator.power.precedence
  | _ => Nonterminal.unary.level

end Formula

theorem BindingPower.operand_precedence_le (power : BindingPower) :
    power.leftPrecedence ≤ Nonterminal.unary.level ∧
      power.rightPrecedence ≤ Nonterminal.unary.level := by
  cases power <;> decide

namespace Formula

/-! An operand is put between parentheses exactly if it is looser than its place admits. -/

theorem isOperation_iff (formula : Formula) :
    formula.isOperation = true ↔ formula.level < Nonterminal.unary.level := by
  cases formula with
  | number | negation => exact iff_of_false Bool.false_ne_true (Nat.lt_irrefl _)
  | operation operator => exact iff_of_true rfl operator.power.precedence_lt_four

theorem enclosedLeft_iff (operator : Operator) (formula : Formula) :
    formula.enclosedLeft operator = true ↔ formula.level < operator.power.leftPrecedence := by
  cases formula with
  | number | negation =>
    exact iff_of_false Bool.false_ne_true (Nat.not_lt.mpr operator.power.operand_precedence_le.1)
  | operation inner =>
    simp only [enclosedLeft, level]
    cases operator <;> cases inner <;> decide

theorem enclosedRight_iff (operator : Operator) (formula : Formula) :
    formula.enclosedRight operator = true ↔ formula.level < operator.power.rightPrecedence := by
  cases formula with
  | number | negation =>
    exact iff_of_false Bool.false_ne_true (Nat.not_lt.mpr operator.power.operand_precedence_le.2)
  | operation inner =>
    simp only [enclosedRight, level]
    cases operator <;> cases inner <;> decide

end Formula

/-! ## Reading back -/

/-- Whether tokens of these words are always a phrase of a level for the tree at some places. -/
def Spells (level : Nat) (tree : Expr) (words : List Word) : Prop :=
  ∀ tokens : List Token, tokens.map Token.word = words → ∃ phrase : Phrase,
    phrase.Fits .standard level ∧ phrase.tokens = tokens ∧ phrase.tree.bare = tree.bare

section Spells

variable {level : Nat} {tree left right : Expr} {words leftWords rightWords : List Word}

theorem Spells.mono {least : Nat} (spells : Spells level tree words) (le : least ≤ level) :
    Spells least tree words := by
  intro tokens written
  obtain ⟨phrase, fits, spelled, same⟩ := spells tokens written
  exact ⟨phrase, fits.mono le, spelled, same⟩

/-- Tokens are read one by one as their words are. -/
theorem exists_token_of_word {tokens : List Token} {kind : Token.Kind} {text : String}
    (written : tokens.map Token.word = (kind, text) :: words) :
    ∃ token rest, tokens = token :: rest ∧ token.kind = kind ∧ token.text = text ∧
      rest.map Token.word = words := by
  obtain ⟨token, rest, rfl, word, others⟩ := List.map_eq_cons_iff.mp written
  obtain ⟨sameKind, sameText⟩ := Prod.mk.inj word
  exact ⟨token, rest, rfl, sameKind, sameText, others⟩

theorem spells_number {text : String} {value : Float} {span : Span}
    (read : Decimal.read? text = some value) :
    Spells level (.literal value span) [(.number, text)] := by
  intro tokens written
  obtain ⟨token, rest, rfl, kind, rfl, others⟩ := exists_token_of_word written
  obtain rfl := List.map_eq_nil_iff.mp others
  have found : Rules.standard.operand token.kind = some .number :=
    Rules.operand_standard_eq_some_iff.mpr kind
  exact ⟨.number token value, .number found read, rfl, rfl⟩

/-- Between parentheses everything is tight. -/
theorem Spells.enclose (inside : Spells 0 tree words) :
    Spells level tree (enclose true words) := by
  intro tokens written
  obtain ⟨opening, rest, rfl, opens, -, others⟩ := exists_token_of_word written
  obtain ⟨inner, last, rfl, spelled, closes⟩ := List.map_eq_append_iff.mp others
  obtain ⟨closing, none, rfl, closed, -, ended⟩ := exists_token_of_word closes
  obtain rfl := List.map_eq_nil_iff.mp ended
  obtain ⟨phrase, fits, rfl, same⟩ := inside inner spelled
  have found : Rules.standard.operand opening.kind = some .grouping :=
    Rules.operand_standard_eq_some_iff.mpr opens
  exact ⟨.group opening phrase closing, .group found fits closed, rfl, same⟩

/-- With parentheses where it is too loose, an expression fits into any place. -/
theorem Spells.enclose_of_iff {least : Nat} {needed : Bool} (spells : Spells level tree words)
    (loose : needed = true ↔ level < least) :
    Spells least tree (Calculator.enclose needed words) := by
  cases needed with
  | true => exact (spells.mono (Nat.zero_le level)).enclose
  | false =>
    refine spells.mono (Nat.le_of_not_lt fun below => ?_)
    exact Bool.false_ne_true (loose.mpr below)

theorem Spells.negation {place : Span} (operand : Spells Nonterminal.unary.level tree words) :
    Spells level (.unary ⟨.sub, place⟩ tree) ((.dash, "-") :: words) := by
  intro tokens written
  obtain ⟨sign, rest, rfl, kind, -, others⟩ := exists_token_of_word written
  obtain ⟨phrase, fits, rfl, same⟩ := operand rest others
  have found : Rules.standard.operand sign.kind = some .negation :=
    Rules.operand_standard_eq_some_iff.mpr kind
  refine ⟨.negation sign phrase, ?_, rfl, Expr.bare_unary_eq_iff.mpr ⟨rfl, same⟩⟩
  exact .negation found (fits.isOperand BindingPower.precedence_lt_four)
    (fits.mono (Nat.zero_le _))

theorem Spells.operation {operator : Operator} {place : Span}
    (first : Spells operator.power.leftPrecedence left leftWords)
    (second : Spells operator.power.rightPrecedence right rightWords) :
    Spells operator.power.precedence (.binary ⟨operator, place⟩ left right)
      (leftWords ++ (operator.kind, operator.symbol) :: rightWords) := by
  intro tokens written
  obtain ⟨before, rest, rfl, writtenLeft, others⟩ := List.map_eq_append_iff.mp written
  obtain ⟨sign, after, rfl, kind, -, writtenRight⟩ := exists_token_of_word others
  obtain ⟨one, fitsLeft, rfl, sameLeft⟩ := first before writtenLeft
  obtain ⟨other, fitsRight, rfl, sameRight⟩ := second after writtenRight
  refine ⟨.operation one operator sign other, ?_, rfl, ?_⟩
  · exact .operation kind (power_standard kind) (Nat.le_refl _) fitsLeft fitsRight
  · exact Expr.bare_binary_eq_iff.mpr ⟨rfl, sameLeft, sameRight⟩

/-- The words of a formula are a phrase that is as tight as the formula. -/
theorem Formula.Denotes.spells {formula : Formula} (denotes : formula.Denotes tree) :
    Spells formula.level tree formula.words := by
  induction denotes with
  | number read => exact spells_number read
  | @negation operand _ _ _ ih => exact (ih.enclose_of_iff operand.isOperation_iff).negation
  | @operation operator left right _ _ _ _ _ first second =>
    have one := first.enclose_of_iff (left.enclosedLeft_iff operator)
    have other := second.enclose_of_iff (right.enclosedRight_iff operator)
    exact one.operation other

end Spells

/-! ## Nothing shorter -/

section Shortest

variable {formula : Formula} {tree : Expr} {phrase : Phrase} {least : Nat}

/-- A phrase for the tree of a formula has parentheses wherever the formula has them. -/
theorem Phrase.Fits.length_words_le (fits : phrase.Fits .standard least)
    (below : least ≤ Nonterminal.unary.level) (denotes : formula.Denotes tree)
    (same : phrase.tree.bare = tree.bare) :
    formula.words.length + (if formula.level < least then 2 else 0) ≤ phrase.tokens.length := by
  induction phrase generalizing formula tree least with
  | number token value =>
    cases denotes with
    | @number text =>
      have tight : ¬ (Formula.number text).level < least := Nat.not_lt.mpr below
      rw [if_neg tight]
      exact Nat.le_refl 1
    | negation | operation => cases same
  | negation sign inner ih =>
    cases fits with
    | negation found single inside =>
    cases denotes with
    | number | operation => cases same
    | @negation operand _ _ denotes =>
      have shorter := ih (inside.of_isOperand single) (Nat.le_refl _) denotes
        (Expr.bare_unary_eq_iff.mp same).2
      have tight : ¬ (Formula.negation operand).level < least := Nat.not_lt.mpr below
      rw [if_neg tight]
      simp only [Formula.words, tokens, List.length_cons, length_enclose, Formula.isOperation_iff]
      omega
  | group opening inner closing ih =>
    cases fits with
    | group found inside closed =>
    have shorter := ih inside (Nat.zero_le _) denotes same
    simp only [tokens, List.cons_append, List.length_cons, List.length_append, List.length_nil]
    split <;> omega
  | operation left operator sign right first second =>
    cases fits with
    | @operation _ _ _ _ _ power written found tight fitsLeft fitsRight =>
    cases denotes with
    | number | negation => cases same
    | @operation _ leftFormula rightFormula _ _ _ one two =>
      obtain ⟨rfl, sameLeft, sameRight⟩ := Expr.bare_binary_eq_iff.mp same
      obtain rfl := Option.some.inj ((power_standard written).symm.trans found)
      have before := first fitsLeft operator.power.operand_precedence_le.1 one sameLeft
      have after := second fitsRight operator.power.operand_precedence_le.2 two sameRight
      have tightest : ¬ (Formula.operation operator leftFormula rightFormula).level < least :=
        Nat.not_lt.mpr tight
      rw [if_neg tightest]
      simp only [Formula.words, tokens, List.length_append, List.length_cons, length_enclose,
        Formula.enclosedLeft_iff, Formula.enclosedRight_iff]
      omega

end Shortest

/-- What a formula is written as is read back as its tree, at the places of the words, if the limit
is above their number and nothing may follow the expression; and whatever else is read as this tree
has no fewer tokens. -/
theorem Formula.parse_words {formula : Formula} {tree : Expr} (denotes : formula.Denotes tree)
    {settings : Settings} (strict : settings.trailing = false) :
    (∀ tokens mark, tokens.map Token.word = formula.words → mark.kind = .endOfInput →
      tokens.length < settings.maxDepth →
      ∃ parsed, (parseTokens settings (tokens ++ [mark])).outcome = .ok parsed ∧
        parsed.bare = tree.bare) ∧
    (∀ tokens parsed, (parseTokens settings tokens).outcome = .ok parsed →
      parsed.bare = tree.bare → formula.words.length ≤ (Token.body tokens).length) := by
  constructor
  · intro tokens mark written ending enough
    obtain ⟨phrase, fits, rfl, same⟩ := denotes.spells tokens written
    have derived : Derives .expr phrase := derives_expr_iff.mpr (fits.mono (Nat.zero_le _))
    have body : Token.body (phrase.tokens ++ [mark]) = phrase.tokens := by
      rw [Token.body_append_mark ending, Token.body_words (fits.kind_ne rfl)]
    refine ⟨phrase.tree, derived.outcome_parseTokens body.symm ?_, same⟩
    rwa [body]
  · intro tokens parsed accepted same
    obtain ⟨phrase, derived, written, rfl⟩ := exists_derives_of_outcome strict accepted
    have fits := derives_expr_iff.mp derived
    have shorter := fits.length_words_le (Nat.zero_le _) denotes same
    rw [← written]
    exact Nat.le_of_add_right_le shorter

/-- The power of `2+3` and `-5`, which needs one pair of parentheses. -/
theorem Formula.parse_words_power :
    (Formula.operation .pow (.operation .add (.number "2") (.number "3"))
        (.negation (.number "5"))).words =
      [(.openParen, "("), (.number, "2"), (.plus, "+"), (.number, "3"), (.closeParen, ")"),
        (.caret, "^"), (.dash, "-"), (.number, "5")] ∧
    ∃ parsed, (parseTokens {} ([⟨.openParen, "(", ⟨0, 1⟩⟩, ⟨.number, "2", ⟨1, 2⟩⟩,
        ⟨.plus, "+", ⟨2, 3⟩⟩, ⟨.number, "3", ⟨3, 4⟩⟩, ⟨.closeParen, ")", ⟨4, 5⟩⟩,
        ⟨.caret, "^", ⟨5, 6⟩⟩, ⟨.dash, "-", ⟨6, 7⟩⟩, ⟨.number, "5", ⟨7, 8⟩⟩] ++
        [.finish 8])).outcome = .ok parsed ∧
      parsed.bare = (Expr.binary ⟨.pow, default⟩
        (.binary ⟨.add, default⟩ (.literal (.ofScientific 2 false 0) default)
          (.literal (.ofScientific 3 false 0) default))
        (.unary ⟨.sub, default⟩ (.literal (.ofScientific 5 false 0) default))).bare := by
  have denotes : (Formula.operation .pow (.operation .add (.number "2") (.number "3"))
      (.negation (.number "5"))).Denotes (.binary ⟨.pow, default⟩
        (.binary ⟨.add, default⟩ (.literal (.ofScientific 2 false 0) default)
          (.literal (.ofScientific 3 false 0) default))
        (.unary ⟨.sub, default⟩ (.literal (.ofScientific 5 false 0) default))) :=
    .operation (.operation (.number rfl) (.number rfl)) (.negation (.number rfl))
  exact ⟨rfl, (Formula.parse_words denotes rfl).1 _ _ rfl rfl (by decide)⟩

end Calculator

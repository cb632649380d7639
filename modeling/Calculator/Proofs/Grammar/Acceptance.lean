import Calculator.Proofs.Grammar.Levels
import Calculator.Proofs.Grammar.Soundness

/-!
# The grammar is what is accepted

With room enough, and if nothing may follow the expression, the parser accepts exactly the lists of
tokens whose bodies are derived by the grammar, and it builds the tree of the derivation. As the
parser builds one tree only, two derivations of the same tokens have the same tree.
-/

namespace Calculator

open Calculator.Parser

variable {settings : Settings} {tokens : List Token} {tree : Expr}

/-- What is accepted with nothing after it is derived. -/
theorem exists_derives_of_outcome (strict : settings.trailing = false)
    (accepted : (parseTokens settings tokens).outcome = .ok tree) :
    ∃ phrase, Derives .expr phrase ∧ phrase.tokens = Token.body tokens ∧ phrase.tree = tree := by
  obtain ⟨after, run, alone⟩ := exists_run_of_outcome accepted
  obtain ⟨phrase, fits, same, read⟩ := run.reads rfl rfl
  have ending : Token.body after.rest = [] := by
    rw [Cursor.body_rest_eq_nil_iff]
    apply Classical.byContradiction
    intro word
    cases strict.symm.trans (alone (Cursor.hasToken_iff.mpr word))
  refine ⟨phrase, derives_expr_iff.mpr fits, ?_, same⟩
  calc phrase.tokens
      = phrase.tokens ++ Token.body after.rest := by rw [ending, List.append_nil]
    _ = Token.body (phrase.tokens ++ after.rest) :=
        (Token.body_append (fits.kind_ne rfl) after.rest).symm
    _ = Token.body (Token.terminated tokens) := congrArg Token.body read.symm
    _ = Token.body tokens := Token.body_terminated tokens

/-- With room enough, what is derived is accepted. -/
theorem Derives.outcome_parseTokens {phrase : Phrase} (derived : Derives .expr phrase)
    (written : phrase.tokens = Token.body tokens)
    (enough : (Token.body tokens).length < settings.maxDepth) :
    (parseTokens settings tokens).outcome = .ok phrase.tree := by
  obtain ⟨admitted, cut⟩ := derived.needsLevels written.symm settings
  by_cases within : phrase.levels ≤ settings.maxDepth
  case pos => exact admitted within
  obtain ⟨position, failed⟩ := cut (Nat.lt_of_not_le within)
  exact absurd rfl ((throws_parseTokens_of_lt enough).outcome failed settings.maxDepth)

theorem Derives.tree_unique {first second : Phrase} (one : Derives .expr first)
    (other : Derives .expr second) (same : first.tokens = second.tokens) :
    first.tree = second.tree := by
  have body : Token.body first.tokens = first.tokens :=
    Token.body_words ((derives_expr_iff.mp one).kind_ne rfl)
  let roomy : Settings := Settings.withMaxDepth {} (first.tokens.length + 1)
  have enough : (Token.body first.tokens).length < roomy.maxDepth := by
    rw [body]
    exact Nat.lt_succ_self _
  have left := one.outcome_parseTokens body.symm enough
  have right := other.outcome_parseTokens (same.symm.trans body.symm) enough
  exact Except.ok.inj (left.symm.trans right)

/-- If nothing may follow an expression and the limit is above the number of tokens, the parser
ends with a tree exactly if the grammar derives the tokens and the tree is that of the derivation.
So the grammar gives a list of tokens one tree at most. -/
theorem outcome_parseTokens_iff_derives :
    (∀ settings tokens, settings.trailing = false →
      (Token.body tokens).length < settings.maxDepth →
      ∀ tree, (parseTokens settings tokens).outcome = .ok tree ↔
        ∃ phrase, Derives .expr phrase ∧ phrase.tokens = Token.body tokens ∧ phrase.tree = tree) ∧
    (∀ first second, Derives .expr first → Derives .expr second →
      first.tokens = second.tokens → first.tree = second.tree) := by
  refine ⟨fun settings tokens strict enough tree => ⟨exists_derives_of_outcome strict, ?_⟩,
    fun first second one other same => one.tree_unique other same⟩
  rintro ⟨phrase, derived, written, rfl⟩
  exact derived.outcome_parseTokens written enough

/-- The tokens of `(2)`. -/
theorem outcome_parseTokens_group :
    (parseTokens {} [⟨.openParen, "(", ⟨0, 1⟩⟩, ⟨.number, "2", ⟨1, 2⟩⟩,
      ⟨.closeParen, ")", ⟨2, 3⟩⟩]).outcome = .ok (.literal (.ofScientific 2 false 0) ⟨1, 2⟩) ∧
    ∃ phrase, Derives .expr phrase ∧
      phrase.tokens = [⟨.openParen, "(", ⟨0, 1⟩⟩, ⟨.number, "2", ⟨1, 2⟩⟩,
        ⟨.closeParen, ")", ⟨2, 3⟩⟩] ∧
      phrase.tree = .literal (.ofScientific 2 false 0) ⟨1, 2⟩ := by
  obtain ⟨accepts, unique⟩ := outcome_parseTokens_iff_derives
  let group : Phrase := .group ⟨.openParen, "(", ⟨0, 1⟩⟩
    (.number ⟨.number, "2", ⟨1, 2⟩⟩ (.ofScientific 2 false 0)) ⟨.closeParen, ")", ⟨2, 3⟩⟩
  have number : Derives .unary (.number ⟨.number, "2", ⟨1, 2⟩⟩ (.ofScientific 2 false 0)) :=
    .primary (.number rfl rfl)
  have derived : Derives .expr group :=
    .term (.power (.unary (.primary (.group rfl (.term (.power (.unary number))) rfl))))
  have accepted := (accepts {} group.tokens rfl (by decide) group.tree).mpr
    ⟨group, derived, rfl, rfl⟩
  obtain ⟨phrase, other, written, _⟩ := (accepts {} _ rfl (by decide) _).mp accepted
  exact ⟨accepted, phrase, other, written, unique phrase group other derived written⟩

end Calculator

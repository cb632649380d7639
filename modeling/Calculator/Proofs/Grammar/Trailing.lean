import Calculator.Proofs.Grammar.Acceptance
import Calculator.Proofs.Parser.Expectation

/-!
# What follows an expression

Where no operator follows a phrase at the start of some tokens, the phrase is read and nothing after
it: what stands there decides only whether it may stand there. So a list of tokens has at most one
place up to which it is a whole expression that nothing after it can carry on. If tokens may trail,
a parse ends with this expression, and fails only if there is none.
-/

namespace Calculator

theorem Operator.ofKind?_eq_none_iff {kind : Token.Kind} :
    ofKind? kind = none ↔ kind ∉ [.plus, .dash, .star, .slash, .caret] := by
  cases kind <;> decide

/-- The token that is read next if these are left. -/
def Token.next (tokens : List Token) : Token := tokens.headD (finish 0)

/-- Whether a phrase for the tree stands at the start of the tokens, the limit admits it, and no
operator follows it. -/
def Expr.Leads (limit : Nat) (tree : Expr) (tokens rest : List Token) : Prop :=
  ∃ phrase : Phrase, Derives .expr phrase ∧ phrase.tree = tree ∧ phrase.levels ≤ limit ∧
    tokens = phrase.tokens ++ rest ∧ Operator.ofKind? (Token.next rest).kind = none

open Calculator.Parser

theorem Parser.stops_of_ofKind? {rest : List Token} {log : Array Event}
    (unknown : Operator.ofKind? (Token.next rest).kind = none) :
    Stops .standard BindingPower.lowest.precedence ⟨rest, log⟩ := by
  intro power bound
  have unbound : Rules.standard.power (Token.next rest).kind = none := by
    simp [Rules.standard, unknown]
  cases unbound.symm.trans bound

namespace Expr

section Runs

variable {limit : Nat} {tree other : Expr} {tokens rest left : List Token}

/-- The run of an expression ends with the tree of the phrase that it has read. -/
theorem leads_iff (log : Array Event) : tree.Leads limit tokens rest ↔
    ∃ later, Run .standard limit (.expression BindingPower.lowest.precedence) 0 ⟨tokens, log⟩
      (.ok tree ⟨rest, later⟩) := by
  have readsOf (phrase : Phrase) (fits : phrase.Fits .standard 0) :
      ReadsExpression .standard limit 0 phrase := (reads_of_fits rfl rfl fits).2.expression
  constructor
  · rintro ⟨phrase, derived, rfl, within, rfl, unknown⟩
    have reads := readsOf phrase (derives_expr_iff.mp derived)
    rcases reads 0 rest log (stops_of_ofKind? unknown) with ⟨-, later, run⟩ | ⟨without, -⟩
    · exact ⟨later, run⟩
    · exact absurd (Phrase.within_iff_levels_le.mpr within) without
  · rintro ⟨later, run⟩
    obtain ⟨phrase, fits, rfl, split⟩ := run.reads rfl rfl
    have stops : Stops .standard 0 ⟨rest, later⟩ := run.stops rfl rfl
    refine ⟨phrase, derives_expr_iff.mpr fits, rfl, ?_, split, Expectation.ofKind?_of_stops stops⟩
    have read := readsOf phrase fits 0 rest log stops
    rw [← show tokens = phrase.tokens ++ rest from split] at read
    rcases read with ⟨within, -⟩ | ⟨-, failure, after, cut, -⟩
    · exact Phrase.within_iff_levels_le.mp within
    · cases run.unique cut

/-- No two phrases at the start of the same tokens are followed by no operator. -/
theorem Leads.unique (leads : tree.Leads limit tokens rest)
    (others : other.Leads limit tokens left) : tree = other ∧ rest = left := by
  obtain ⟨_, one⟩ := (leads_iff #[]).mp leads
  obtain ⟨_, two⟩ := (leads_iff #[]).mp others
  cases one.unique two
  exact ⟨rfl, rfl⟩

end Runs

section Outcomes

variable {settings : Settings} {tokens rest : List Token} {tree : Expr}

/-- What follows a phrase is let be, or it is at fault. -/
theorem Leads.outcome (leads : tree.Leads settings.maxDepth (Token.terminated tokens) rest) :
    (parseTokens settings tokens).outcome =
      if (Token.next rest).kind = .endOfInput ∨ settings.trailing = true then .ok tree
      else .error ⟨.invalidExpression (some (Token.next rest).text),
        (Token.next rest).span.start⟩ := by
  have some : Token.body tokens ≠ [] := by
    obtain ⟨phrase, derived, -, -, split, -⟩ := leads
    rw [← Token.body_terminated, split,
      Token.body_append ((derives_expr_iff.mp derived).kind_ne rfl)]
    exact List.append_ne_nil_of_left_ne_nil phrase.tokens_ne_nil _
  obtain ⟨later, run⟩ := (leads_iff #[]).mp leads
  have next : (Cursor.mk rest later).current = Token.next rest := rfl
  unfold Calculation.outcome
  rw [run_parseTokens some run, conclude]
  by_cases ending : (Token.next rest).kind = .endOfInput
  · simp [Cursor.hasToken, next, ending]
  · cases settings.trailing <;> simp [Cursor.hasToken, Cursor.unexpected, next, ending]

theorem exists_leads_of_outcome (parsed : (parseTokens settings tokens).outcome = .ok tree) :
    ∃ rest, tree.Leads settings.maxDepth (Token.terminated tokens) rest := by
  obtain ⟨after, run, -⟩ := exists_run_of_outcome parsed
  exact ⟨after.rest, (leads_iff #[]).mpr ⟨after.log, run⟩⟩

end Outcomes

/-- Whether the first so many words are an expression by themselves, which the next word, if there
is one, does not carry on. -/
structure EndsAt (settings : Settings) (words : List Token) (stop : Token) (tree : Expr)
    (count : Nat) : Prop where
  pos : 1 ≤ count
  within : count ≤ words.length
  whole : (parseTokens (settings.withTrailing false) (words.take count ++ [stop])).outcome = .ok tree
  alone : ∀ next, words[count]? = some next →
    next.kind ∉ [.plus, .dash, .star, .slash, .caret]

end Expr

/-- A parse that needs no tokens to trail ends well whether they may or not. -/
theorem outcome_withTrailing_of_ok {settings : Settings} {tokens : List Token} {tree : Expr}
    (accepted : (parseTokens (settings.withTrailing false) tokens).outcome = .ok tree)
    (trailing : Bool) :
    (parseTokens (settings.withTrailing trailing) tokens).outcome = .ok tree := by
  obtain ⟨rest, leads⟩ := Expr.exists_leads_of_outcome accepted
  have ends : (Token.next rest).kind = .endOfInput := by
    apply Classical.byContradiction
    intro word
    rw [leads.outcome, if_neg (by simp [word, Settings.withTrailing])] at accepted
    cases accepted
  have same : tree.Leads (settings.withTrailing trailing).maxDepth _ rest := leads
  rw [same.outcome, if_pos (.inl ends)]

/-- A parse that fails although tokens may trail has not come to what trails. -/
theorem outcome_withTrailing_of_error {settings : Settings} {tokens : List Token} {fault : Fault}
    (failed : (parseTokens (settings.withTrailing true) tokens).outcome = .error fault) :
    (parseTokens (settings.withTrailing false) tokens).outcome = .error fault := by
  by_cases empty : Token.body tokens = []
  case pos =>
    rw [Calculation.outcome, run_parseTokens_of_empty empty] at failed ⊢
    exact failed
  obtain ⟨outcome, run, ends⟩ := exists_run_parseTokens (settings.withTrailing true) empty #[]
  have strict : (parseTokens (settings.withTrailing false) tokens).run #[] =
      conclude false outcome := run_parseTokens empty run
  rw [Calculation.outcome, ends] at failed
  rw [Calculation.outcome, strict]
  cases outcome with
  | error failure after => exact failed
  | ok tree after =>
    cases more : after.hasToken <;> simp [conclude, more, Settings.withTrailing] at failed

section Ends

variable {settings : Settings} {words : List Token} {mark stop : Token} {tree : Expr}
  {count : Nat}

theorem Token.next_drop (words : List Token) (mark : Token) (count : Nat) :
    next (words.drop count ++ [mark]) = words[count]?.getD mark := by
  simp [next, List.headD_eq_head?_getD, List.head?_append, List.head?_drop]

/-- An expression by itself is one that is parsed at the start of all the words. -/
theorem Expr.endsAt_iff (plain : ∀ word ∈ words, word.kind ≠ .endOfInput)
    (marked : mark.kind = .endOfInput) (stopped : stop.kind = .endOfInput) :
    tree.EndsAt settings words stop count ↔ count ≤ words.length ∧
      tree.Leads settings.maxDepth (words ++ [mark]) (words.drop count ++ [mark]) := by
  have body : Token.body (words.take count ++ [stop]) = words.take count := by
    rw [Token.body_append_mark stopped,
      Token.body_words fun word member => plain word (List.mem_of_mem_take member)]
  constructor
  · intro ends
    obtain ⟨phrase, derived, written, rfl⟩ := exists_derives_of_outcome rfl ends.whole
    refine ⟨ends.within, phrase, derived, rfl, ?_, ?_, ?_⟩
    · apply Nat.le_of_not_lt
      intro beyond
      obtain ⟨position, cut⟩ :=
        (derived.needsLevels written.symm (settings.withTrailing false)).2 beyond
      cases ends.whole.symm.trans cut
    · rw [written, body, ← List.append_assoc, List.take_append_drop]
    · rw [Token.next_drop]
      cases found : words[count]? with
      | none => simp [marked, Operator.ofKind?]
      | some next => exact Operator.ofKind?_eq_none_iff.mpr (ends.alone next found)
  · rintro ⟨within, phrase, derived, rfl, admitted, split, unknown⟩
    have written : words.take count = phrase.tokens := by
      apply (List.append_left_inj (words.drop count ++ [mark])).mp
      rw [← List.append_assoc, List.take_append_drop, split]
    refine ⟨?_, within, ?_, ?_⟩
    · apply Nat.pos_of_ne_zero
      rintro rfl
      exact phrase.tokens_ne_nil written.symm
    · exact (derived.needsLevels (body.trans written) (settings.withTrailing false)).1 admitted
    · intro next found
      rw [Token.next_drop, found] at unknown
      exact Operator.ofKind?_eq_none_iff.mp unknown

/-- What is left after a phrase starts with those words that do not belong to it. -/
theorem Expr.exists_endsAt (plain : ∀ word ∈ words, word.kind ≠ .endOfInput)
    (marked : mark.kind = .endOfInput) (stopped : stop.kind = .endOfInput) {rest : List Token}
    (leads : tree.Leads settings.maxDepth (words ++ [mark]) rest) :
    ∃ count, tree.EndsAt settings words stop count := by
  obtain ⟨phrase, derived, same, admitted, split, unknown⟩ := leads
  have inside : words = phrase.tokens ++ Token.body rest := by
    rw [← Token.body_append ((derives_expr_iff.mp derived).kind_ne rfl), ← split,
      Token.body_append_mark marked, Token.body_words plain]
  have left : words.drop phrase.tokens.length = Token.body rest := by
    rw [inside, List.drop_left]
  have ended : rest = words.drop phrase.tokens.length ++ [mark] := by
    apply (List.append_right_inj phrase.tokens).mp
    rw [← split, left, ← List.append_assoc, ← inside]
  refine ⟨phrase.tokens.length, (Expr.endsAt_iff plain marked stopped).mpr ⟨?_, ?_⟩⟩
  · rw [inside, List.length_append]
    exact Nat.le_add_right _ _
  · rw [← ended]
    exact ⟨phrase, derived, same, admitted, split, unknown⟩

end Ends

/-- A parse that lets tokens trail ends with the tree of the words up to which they are an
expression that the next word does not carry on, and there is one such place at most. Without
trailing tokens the next word is at fault, if there is one, and what fails with them fails without
them in the same way. -/
theorem outcome_withTrailing_iff_endsAt (settings : Settings) (words : List Token)
    (mark stop : Token) (plain : ∀ word ∈ words, word.kind ≠ .endOfInput)
    (marked : mark.kind = .endOfInput) (stopped : stop.kind = .endOfInput) :
    (∀ tree, (parseTokens (settings.withTrailing true) (words ++ [mark])).outcome = .ok tree ↔
      ∃ count, tree.EndsAt settings words stop count) ∧
    (∀ (tree other : Expr) (count place : Nat), tree.EndsAt settings words stop count →
      other.EndsAt settings words stop place → count = place) ∧
    (∀ (tree : Expr) (count : Nat), tree.EndsAt settings words stop count →
      (parseTokens (settings.withTrailing false) (words ++ [mark])).outcome =
        match words[count]? with
        | none => .ok tree
        | some next => .error ⟨.invalidExpression (some next.text), next.span.start⟩) ∧
    (∀ fault, (parseTokens (settings.withTrailing true) (words ++ [mark])).outcome = .error fault →
      (parseTokens (settings.withTrailing false) (words ++ [mark])).outcome = .error fault) := by
  have terminated := Token.terminated_append_mark marked words
  have leadsOf : ∀ (tree : Expr) (count : Nat), tree.EndsAt settings words stop count →
      tree.Leads settings.maxDepth (Token.terminated (words ++ [mark]))
        (words.drop count ++ [mark]) := by
    intro tree count ends
    rw [terminated]
    exact ((Expr.endsAt_iff plain marked stopped).mp ends).2
  refine ⟨fun tree => ⟨fun parsed => ?_, fun ⟨count, ends⟩ => ?_⟩, ?_, ?_, ?_⟩
  · obtain ⟨rest, leads⟩ := Expr.exists_leads_of_outcome parsed
    rw [terminated] at leads
    exact Expr.exists_endsAt plain marked stopped leads
  · have leads : tree.Leads (settings.withTrailing true).maxDepth _ _ := leadsOf tree count ends
    exact leads.outcome.trans (if_pos (.inr rfl))
  · intro tree other count place ends others
    obtain ⟨-, same⟩ := (leadsOf tree count ends).unique (leadsOf other place others)
    have lengths := congrArg List.length (List.append_cancel_right same)
    have first := ends.within
    have second := others.within
    simp only [List.length_drop] at lengths
    omega
  · intro tree count ends
    have leads : tree.Leads (settings.withTrailing false).maxDepth _ _ := leadsOf tree count ends
    rw [leads.outcome, Token.next_drop]
    cases found : words[count]? with
    | none => exact if_pos (.inl marked)
    | some next =>
      have word := plain next (List.mem_of_getElem? found)
      exact if_neg (by simp [word, Settings.withTrailing])
  · intro fault failed
    exact outcome_withTrailing_of_error failed

/-- The tokens of `2 3`. -/
theorem outcome_withTrailing_two_numbers :
    (parseTokens (Settings.withTrailing {} true) [⟨.number, "2", ⟨0, 1⟩⟩, ⟨.number, "3", ⟨2, 3⟩⟩,
      .finish 3]).outcome = .ok (.literal (.ofScientific 2 false 0) ⟨0, 1⟩) ∧
    (parseTokens (Settings.withTrailing {} false) [⟨.number, "2", ⟨0, 1⟩⟩,
      ⟨.number, "3", ⟨2, 3⟩⟩, .finish 3]).outcome = .error ⟨.invalidExpression (some "3"), 2⟩ := by
  let words : List Token := [⟨.number, "2", ⟨0, 1⟩⟩, ⟨.number, "3", ⟨2, 3⟩⟩]
  let tree : Expr := .literal (.ofScientific 2 false 0) ⟨0, 1⟩
  have derived : Derives .expr (.number ⟨.number, "2", ⟨0, 1⟩⟩ (.ofScientific 2 false 0)) :=
    .term (.power (.unary (.primary (.number rfl rfl))))
  have ends : tree.EndsAt {} words (.finish 1) 1 :=
    ⟨by decide, by decide, (derived.needsLevels rfl _).1 (by decide), by decide⟩
  obtain ⟨accepts, -, rejects, -⟩ := outcome_withTrailing_iff_endsAt {} words (.finish 3) (.finish 1)
    (by decide) rfl rfl
  exact ⟨(accepts tree).mpr ⟨1, ends⟩, rejects tree 1 ends⟩

end Calculator

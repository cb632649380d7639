import Calculator.Proofs.Calculation.Blame

/-!
# Characters that belong to no token

Under strict settings such a character is a token of its own, which no expression admits. A fault at
it names the character wherever an operand is expected, and behind a whole expression. It does not
where an operand has ended inside of parentheses: there the parser asks for the closing one, and
whatever else it meets is reported as a parenthesis without a match (`cause_of_unknown`).

Which of the two it is can be told from the tokens before the character: what they leave open is
counted (`Expectation.opened_of_after`), and the last of them says whether an operand has ended
(`Expectation.isOperator_of_after`).
-/

namespace Calculator

/-- Whether an operand may end with a token. -/
def Token.EndsOperand (token : Token) : Prop := token.kind = .number ∨ token.kind = .closeParen

/-- Whether some tokens end in an operand with more parentheses opened than closed. -/
def Token.EndInside (tokens : List Token) : Prop :=
  tokens.countP (·.kind = .closeParen) < tokens.countP (·.kind = .openParen) ∧
    ∃ last ∈ tokens.getLast?, last.EndsOperand

namespace Expectation

variable {trailing : Bool} {expectation later : Expectation} {token : Token} {before : List Token}

/-- Whether an operator comes next. -/
def IsOperator : Expectation → Prop
  | operand _ => False
  | operator _ => True

theorem Passes.isOperator_iff (passes : Passes expectation token.kind later) :
    later.IsOperator ↔ token.EndsOperand := by
  unfold Token.EndsOperand
  generalize token.kind = kind at passes
  cases passes with
  | sign opened sign => cases sign <;> simp [IsOperator, Operator.kind]
  | negation | opening | number | closing => simp [IsOperator]

/-- An operator comes next exactly if the last token ends an operand. -/
theorem isOperator_of_after (passed : expectation.after trailing (token :: before) = some later) :
    later.IsOperator ↔ (before.getLastD token).EndsOperand := by
  induction before generalizing expectation token with
  | nil =>
    obtain ⟨middle, verdict, last⟩ := exists_next_of_after passed
    cases last
    exact (passes_of_judge verdict).isOperator_iff
  | cons next before ih =>
    obtain ⟨middle, -, others⟩ := exists_next_of_after passed
    rw [List.getLastD_cons]
    exact ih others

/-- Tokens that are in order end inside of parentheses exactly if an operator or the closing one
comes next. -/
theorem endInside_iff (passed : (operand 0).after trailing before = some later) :
    Token.EndInside before ↔ later.IsOperator ∧ 0 < later.opened := by
  have counted : later.opened + _ = 0 + _ := opened_of_after passed
  have ends : (∃ last ∈ before.getLast?, last.EndsOperand) ↔ later.IsOperator := by
    cases before with
    | nil =>
      cases passed
      simp [IsOperator]
    | cons first before =>
      rw [isOperator_of_after passed, List.getLast?_cons, ← List.getLastD_eq_getLast?]
      simp
  rw [Token.EndInside, ends, and_comm]
  exact and_congr_right fun _ => by omega

/-- What an unrecognised character is blamed for. -/
theorem judge_unknown {cause : Fault.Cause} (unknown : token.kind = .unknown)
    (blame : expectation.judge trailing token = .blame cause) :
    expectation.IsOperator ∧ 0 < expectation.opened ∧ cause = .unmatchedParentheses ∨
      ¬ (expectation.IsOperator ∧ 0 < expectation.opened) ∧
        cause = .invalidExpression (some token.text) := by
  obtain ⟨kind, text, span⟩ := token
  obtain rfl : kind = .unknown := unknown
  match expectation with
  | operand opened =>
    cases blame
    exact .inr ⟨fun inside => inside.1, rfl⟩
  | operator 0 =>
    cases trailing with
    | true => cases blame
    | false =>
      cases blame
      exact .inr ⟨fun inside => Nat.lt_irrefl 0 inside.2, rfl⟩
  | operator (opened + 1) =>
    cases blame
    exact .inl ⟨trivial, Nat.succ_pos opened, rfl⟩

end Expectation

variable {settings : Settings} {source : String} {fault : Fault} {before after : List Token}
  {word : Token}

/-- A fault at an unrecognised character is one of the parse. -/
theorem outcome_parseTokens_of_unknown (failed : calculate settings source = .error fault)
    (split : Token.scan settings source = before ++ word :: after)
    (unknown : word.kind = .unknown) (here : fault.position = word.span.start) :
    (parseTokens settings (Token.scan settings source)).outcome = .error fault := by
  rw [calculate_eq] at failed
  cases parsed : (parseTokens settings (Token.scan settings source)).outcome with
  | error other =>
    rw [parsed] at failed
    cases failed
    rfl
  | ok tree =>
    -- evaluation fails at a sign of the phrase, and none of its tokens is such a character
    rw [parsed] at failed
    obtain ⟨phrase, rest, fits, rfl, tokens⟩ := Parser.exists_phrase_of_outcome parsed
    obtain ⟨sign, member, position, -⟩ := fits.exists_sign failed
    obtain ⟨front, back, inside⟩ := List.append_of_mem member
    rw [Token.terminated_scan, inside, List.append_assoc, List.cons_append] at tokens
    obtain ⟨-, rfl⟩ := Token.eq_of_start split tokens (here.symm.trans position)
    exact absurd unknown (fits.kind_ne_of_unbound rfl rfl (by decide) word member)

/-- A fault at an unrecognised character names the character, unless what comes before it ends in
an operand with a parenthesis still open. Then, and only then, it is the parenthesis that is said to
have no match. -/
theorem cause_of_unknown (failed : calculate settings source = .error fault)
    (whole : ∀ limit, fault.cause ≠ .nestingTooDeep limit)
    (split : Token.scan settings source = before ++ word :: after)
    (unknown : word.kind = .unknown) (here : fault.position = word.span.start) :
    ∃ c, source.toList[fault.position]? = some c ∧
      (fault.cause = .invalidExpression (some (String.singleton c)) ↔ ¬ Token.EndInside before) ∧
      (fault.cause = .unmatchedParentheses ↔ Token.EndInside before) := by
  have member : word ∈ Token.scan settings source := by
    rw [split]
    exact List.mem_append_right before List.mem_cons_self
  obtain ⟨c, found, text, -⟩ :=
    Token.exists_char_of_mem_scan member (by rw [unknown]; decide) (by rw [unknown]; decide)
  refine ⟨c, here ▸ found, ?_⟩
  rw [← text]
  rcases exists_judged_of_outcome (outcome_parseTokens_of_unknown failed split unknown here) whole
    with ⟨first, rest, tokens, ending, rfl⟩ | ⟨front, token, rest, later, tokens, passed, blame,
      position⟩
  · rw [Token.terminated_scan, ← List.nil_append (first :: rest)] at tokens
    obtain ⟨-, rfl⟩ := Token.eq_of_start tokens split here
    rw [unknown] at ending
    cases ending
  · rw [Token.terminated_scan] at tokens
    obtain ⟨rfl, rfl⟩ := Token.eq_of_start split tokens (here.symm.trans position)
    rw [Expectation.endInside_iff passed]
    rcases Expectation.judge_unknown unknown blame with ⟨ends, more, cause⟩ | ⟨outside, cause⟩
    · rw [cause]
      simp [ends, more]
    · rw [cause]
      simp [outside]

/-- Of `(2 # 3)` it is said that a parenthesis has no match, and of `(2 + #)` which character is
wrong. -/
theorem cause_of_unknown_in_parentheses :
    calculate {} "(2 # 3)" = .error ⟨.unmatchedParentheses, 3⟩ ∧
    calculate {} "(2 + #)" = .error ⟨.invalidExpression (some "#"), 5⟩ ∧
    Token.EndInside [⟨.openParen, "(", ⟨0, 1⟩⟩, ⟨.number, "2", ⟨1, 2⟩⟩] ∧
    ¬ Token.EndInside
      [⟨.openParen, "(", ⟨0, 1⟩⟩, ⟨.number, "2", ⟨1, 2⟩⟩, ⟨.plus, "+", ⟨3, 4⟩⟩] := by
  have between : calculate {} "(2 # 3)" = .error ⟨.unmatchedParentheses, 3⟩ := by decide +kernel
  have missing : calculate {} "(2 + #)" = .error ⟨.invalidExpression (some "#"), 5⟩ := by
    decide +kernel
  have one : Token.scan {} "(2 # 3)" =
      [⟨.openParen, "(", ⟨0, 1⟩⟩, ⟨.number, "2", ⟨1, 2⟩⟩] ++ ⟨.unknown, "#", ⟨3, 4⟩⟩ ::
        [⟨.number, "3", ⟨5, 6⟩⟩, ⟨.closeParen, ")", ⟨6, 7⟩⟩, .finish 7] := by decide +kernel
  have other : Token.scan {} "(2 + #)" =
      [⟨.openParen, "(", ⟨0, 1⟩⟩, ⟨.number, "2", ⟨1, 2⟩⟩, ⟨.plus, "+", ⟨3, 4⟩⟩] ++
        ⟨.unknown, "#", ⟨5, 6⟩⟩ :: [⟨.closeParen, ")", ⟨6, 7⟩⟩, .finish 7] := by decide +kernel
  obtain ⟨c, -, -, unmatched⟩ := cause_of_unknown between (by simp) one rfl rfl
  obtain ⟨d, found, named, -⟩ := cause_of_unknown missing (by simp) other rfl rfl
  have same : d = '#' := Option.some.inj (found.symm.trans (by decide +kernel))
  exact ⟨between, missing, unmatched.mp rfl, named.mp (by rw [same]; rfl)⟩

/-- It is not so that every fault at an unrecognised character names the character. -/
theorem not_names_unknown : ¬ ∀ (settings : Settings) (source : String) (fault : Fault)
    (word : Token), settings.strict = true → calculate settings source = .error fault →
    (∀ limit, fault.cause ≠ .nestingTooDeep limit) → word ∈ Token.scan settings source →
    word.kind = .unknown → fault.position = word.span.start →
    fault.cause = .invalidExpression (some word.text) := by
  intro names
  have failed : calculate {} "(2 # 3)" = .error ⟨.unmatchedParentheses, 3⟩ := by decide +kernel
  have member : ⟨.unknown, "#", ⟨3, 4⟩⟩ ∈ Token.scan {} "(2 # 3)" := by decide +kernel
  have named := names {} _ _ _ rfl failed (by simp) member rfl rfl
  cases named

end Calculator

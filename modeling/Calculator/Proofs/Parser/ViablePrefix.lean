import Calculator.Proofs.Parser.Blame

/-!
# The first token that cannot be right

The token that a parse blames is the first one that cannot be right. Whatever comes after it, there
is no expression that begins so; and the tokens before it begin some expression, since a missing
operand can be added and open parentheses can be closed.
-/

namespace Calculator

namespace Token

/-- Whether an expression begins with the tokens. -/
def Viable (tokens : List Token) : Prop :=
  ∃ others, tokens <+: others ∧ ∃ bound, ∀ settings : Settings, settings.trailing = false →
    bound ≤ settings.maxDepth → ∃ tree, (parseTokens settings others).outcome = .ok tree

/-- Whether no expression begins with the tokens, whatever the limit. -/
def Hopeless (tokens : List Token) : Prop :=
  ∀ others, tokens <+: others → ∀ settings : Settings, settings.trailing = false →
    ¬ ∃ tree, (parseTokens settings others).outcome = .ok tree

/-- Whether a token at the position begins no expression together with those before it, which begin
one by themselves. The mark for the end may be at the position as well. -/
def TurnsAt (position : Nat) (tokens : List Token) : Prop :=
  ∃ index token, tokens[index]? = some token ∧ position = token.span.start ∧
    (token.kind ≠ .endOfInput → Hopeless (tokens.take (index + 1))) ∧
    Viable (tokens.take index)

end Token

namespace Expectation

/-- An operand if one is expected, and the closing parentheses that are missing. -/
def completion : Expectation → List Token
  | operand opened =>
    ⟨.number, "0", default⟩ :: List.replicate opened ⟨.closeParen, ")", default⟩
  | operator opened => List.replicate opened ⟨.closeParen, ")", default⟩

/-- A completed expression is in order. -/
theorem firstFault_completion (expectation : Expectation) :
    expectation.firstFault false (expectation.completion ++ [.finish 0]) = none := by
  have closed (opened : Nat) :
      (operator opened).firstFault false ((operator opened).completion ++ [.finish 0]) = none := by
    induction opened with
    | zero => rfl
    | succ opened ih => exact ih
  cases expectation with
  | operator opened => exact closed opened
  | operand opened =>
    obtain ⟨value, read⟩ : ∃ value, Decimal.read? "0" = some value := ⟨_, rfl⟩
    rw [completion, List.cons_append, firstFault, judge_number rfl read]
    exact closed opened

/-- What is in order starts with no mark. -/
theorem kind_ne_of_after {trailing : Bool} {expectation later : Expectation} {first : Token}
    {rest : List Token} (passed : expectation.after trailing (first :: rest) = some later) :
    first.kind ≠ .endOfInput := by
  intro ending
  obtain ⟨middle, verdict, -⟩ := exists_next_of_after passed
  exact judge_mark_ne ending expectation middle verdict

end Expectation

namespace Token

variable {before : List Token} {later : Expectation} {token : Token}

/-- Tokens in order are not to blame for a fault of a list that begins with them. -/
theorem firstFault_append {trailing : Bool} {rest : List Token}
    (passed : (Expectation.operand 0).after trailing before = some later)
    (begins : ((before ++ rest).headD (finish 0)).kind ≠ .endOfInput) :
    Token.firstFault trailing (before ++ rest) = later.firstFault trailing rest := by
  rw [Token.firstFault, if_neg begins, Expectation.firstFault_append passed]

/-- What ends in a token to blame begins no expression. -/
theorem hopeless_of_blame {cause : Fault.Cause}
    (passed : (Expectation.operand 0).after false before = some later)
    (blame : later.judge false token = .blame cause) (word : token.kind ≠ .endOfInput) :
    Hopeless (before ++ [token]) := by
  intro others longer settings strict
  rintro ⟨tree, accepted⟩
  obtain ⟨rest, split⟩ := longer.trans (prefix_terminated others)
  rw [List.append_assoc, List.singleton_append] at split
  have whole : ∀ limit position,
      (parseTokens settings others).outcome ≠ .error ⟨.nestingTooDeep limit, position⟩ := by
    intro limit position deep
    rw [accepted] at deep
    cases deep
  have none := Token.firstFault_of_whole whole
  have begins : ((before ++ token :: rest).headD (finish 0)).kind ≠ .endOfInput := by
    cases before with
    | nil => exact word
    | cons first before => exact Expectation.kind_ne_of_after passed
  rw [accepted, strict, ← split, firstFault_append passed begins, Expectation.firstFault, blame]
    at none
  cases none

/-- What is in order begins an expression. -/
theorem viable_of_after (passed : (Expectation.operand 0).after false before = some later) :
    Viable before := by
  let others := before ++ (later.completion ++ [finish 0])
  have begins : (others.headD (finish 0)).kind ≠ .endOfInput := by
    cases before with
    | cons first before => exact Expectation.kind_ne_of_after passed
    | nil =>
      cases passed
      decide
  have whole : terminated others = others := by
    have marked : others = (before ++ later.completion) ++ [finish 0] :=
      (List.append_assoc _ _ _).symm
    rw [marked]
    exact terminated_append_mark rfl _
  refine ⟨others, List.prefix_append before _, (body others).length + 1, ?_⟩
  intro settings strict enough
  have found := Token.firstFault_terminated enough
  rw [whole, strict, firstFault_append passed begins, Expectation.firstFault_completion] at found
  cases ends : (parseTokens settings others).outcome with
  | ok tree => exact ⟨tree, rfl⟩
  | error fault =>
    rw [ends] at found
    cases found

end Token

/-- Up to the token that a parse blames the tokens begin an expression, and with it no longer. -/
theorem turnsAt_position {settings : Settings} {words : List Token} {mark : Token}
    {fault : Fault} (plain : ∀ word ∈ words, word.kind ≠ .endOfInput)
    (ending : mark.kind = .endOfInput) (strict : settings.trailing = false)
    (enough : words.length < settings.maxDepth)
    (failed : (parseTokens settings (words ++ [mark])).outcome = .error fault) :
    Token.TurnsAt fault.position (words ++ [mark]) := by
  have whole := Token.terminated_append_mark ending words
  have body : Token.body (words ++ [mark]) = words := by
    rw [Token.body_append plain, Token.body_mark ending, List.append_nil]
  have found := Token.firstFault_terminated (body.symm ▸ enough)
  rw [failed, whole, strict, Token.firstFault] at found
  by_cases empty : ((words ++ [mark]).headD (.finish 0)).kind = .endOfInput
  case pos =>
    rw [if_pos empty] at found
    cases found
    obtain ⟨first, rest, split⟩ : ∃ first rest, words ++ [mark] = first :: rest :=
      List.exists_cons_of_ne_nil (List.append_ne_nil_of_right_ne_nil _ (List.cons_ne_nil mark []))
    rw [split] at empty ⊢
    exact ⟨0, first, rfl, rfl, fun word => absurd empty word, Token.viable_of_after rfl⟩
  case neg =>
    rw [if_neg empty] at found
    obtain ⟨before, token, rest, later, split, passed, blame, position⟩ :=
      Expectation.exists_blamed found ⟨mark, by simp, ending⟩
    refine ⟨before.length, token, ?_, position, ?_, ?_⟩
    · rw [split, List.getElem?_append_right (Nat.le_refl _), Nat.sub_self]
      rfl
    · intro word
      have taken : (words ++ [mark]).take (before.length + 1) = before ++ [token] := by
        rw [split, List.append_cons]
        exact List.take_left' (List.length_append ..)
      rw [taken]
      exact Token.hopeless_of_blame passed blame word
    · rw [split, List.take_left]
      exact Token.viable_of_after passed

/-- The tokens of `2)`, where the parenthesis is to blame. -/
theorem turnsAt_parenthesis :
    (parseTokens {} ([⟨.number, "2", ⟨0, 1⟩⟩, ⟨.closeParen, ")", ⟨1, 2⟩⟩] ++ [.finish 2])).outcome =
      .error ⟨.invalidExpression (some ")"), 1⟩ ∧
    Token.TurnsAt 1
      ([⟨.number, "2", ⟨0, 1⟩⟩, ⟨.closeParen, ")", ⟨1, 2⟩⟩] ++ [.finish 2]) := by
  have failed : (parseTokens {}
      ([⟨.number, "2", ⟨0, 1⟩⟩, ⟨.closeParen, ")", ⟨1, 2⟩⟩] ++ [.finish 2])).outcome =
      .error ⟨.invalidExpression (some ")"), 1⟩ := by decide +kernel
  exact ⟨failed, turnsAt_position (by decide) rfl rfl (by decide) failed⟩

end Calculator

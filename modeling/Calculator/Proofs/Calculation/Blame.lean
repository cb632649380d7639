import Calculator.Proofs.Decimal.Numeral
import Calculator.Proofs.Grammar.Soundness
import Calculator.Proofs.Parser.Blame
import Calculator.Proofs.Parser.Relocation
import Calculator.Proofs.Token.Word

/-!
# Every fault points at its text

A fault of a calculation names the position of a character, and this character starts a token that
its cause can be blamed on; or it names the end of the text. The faults of a parse lie at the tokens
that are read, and those of an evaluation at signs of the phrase that has been read.
-/

namespace Calculator

section Signs

variable {rules : Rules} {level : Nat} {phrase : Phrase} {fault : Fault}

/-- What is applied before an operand by the parser is always the minus sign. -/
theorem Expr.value_negated (place : Span) (operand : Expr) :
    (Expr.unary ⟨.sub, place⟩ operand).value = operand.value.map fun number => -number := by
  rw [Expr.unary, Expr.value_unaryNode]
  cases operand.value <;> rfl

theorem Operator.kind_of_fault {operator : Operator} {left right : Float} {cause : Fault.Cause}
    (failed : operator.applyBetween left right = .error cause) :
    cause = .divisionByZero ∧ operator.kind = .slash ∨
      cause = .invalidPower ∧ operator.kind = .caret := by
  cases operator with
  | add | sub | mul => cases failed
  | div =>
    simp only [applyBetween] at failed
    split at failed
    · cases failed
      exact .inl ⟨rfl, rfl⟩
    · cases failed
  | pow =>
    simp only [applyBetween] at failed
    split at failed
    · cases failed
      exact .inr ⟨rfl, rfl⟩
    · cases failed

/-- The value of a phrase fails at one of its signs only. -/
theorem Phrase.Fits.exists_sign (fits : phrase.Fits rules level)
    (failed : phrase.tree.value = .error fault) :
    ∃ token ∈ phrase.tokens, fault.position = token.span.start ∧
      ∀ limit before, fault.cause.Blames limit before token := by
  induction fits with
  | number => cases failed
  | @negation _ sign inner _ _ _ ih =>
    rw [tree, Expr.value_negated] at failed
    cases value : inner.tree.value with
    | ok number =>
      rw [value] at failed
      cases failed
    | error other =>
      rw [value] at failed
      cases failed
      obtain ⟨token, member, blamed⟩ := ih value
      exact ⟨token, List.mem_cons_of_mem sign member, blamed⟩
  | group _ _ _ ih =>
    obtain ⟨token, member, blamed⟩ := ih failed
    exact ⟨token, List.mem_append_left _ (List.mem_cons_of_mem _ member), blamed⟩
  | @operation _ left right operator sign _ written _ _ _ _ first second =>
    rw [tree, Expr.binary, Expr.value_binaryNode] at failed
    cases leftValue : left.tree.value with
    | error other =>
      rw [leftValue] at failed
      cases failed
      obtain ⟨token, member, blamed⟩ := first leftValue
      exact ⟨token, List.mem_append_left _ member, blamed⟩
    | ok one =>
      cases rightValue : right.tree.value with
      | error other =>
        rw [leftValue, rightValue] at failed
        cases failed
        obtain ⟨token, member, blamed⟩ := second rightValue
        exact ⟨token, List.mem_append_right _ (List.mem_cons_of_mem sign member), blamed⟩
      | ok other =>
        rw [leftValue, rightValue] at failed
        change Sign.conclusion ⟨operator, sign.span⟩ (operator.applyBetween one other) =
          .error fault at failed
        cases applied : operator.applyBetween one other with
        | ok result =>
          rw [applied] at failed
          cases failed
        | error cause =>
          rw [applied] at failed
          cases failed
          refine ⟨sign, List.mem_append_right _ List.mem_cons_self, rfl, ?_⟩
          intro limit before
          rcases Operator.kind_of_fault applied with ⟨rfl, kind⟩ | ⟨rfl, kind⟩
          · exact written.trans kind
          · exact written.trans kind

end Signs

section Tokens

open Calculator.Parser

variable {settings : Settings} {tokens : List Token} {source : String} {fault : Fault}

/-- Every fault of a text is at a token that its cause can be blamed on. -/
theorem blames_of_calculate (failed : calculate settings source = .error fault) :
    fault.Blames settings.maxDepth (Token.scan settings source) := by
  rw [calculate_eq] at failed
  rw [← Token.terminated_scan]
  cases parsed : (parseTokens settings (Token.scan settings source)).outcome with
  | error other =>
    rw [parsed] at failed
    cases failed
    exact blames_of_outcome parsed
  | ok tree =>
    rw [parsed] at failed
    obtain ⟨phrase, rest, fits, rfl, split⟩ := exists_phrase_of_outcome parsed
    obtain ⟨token, member, position, blamed⟩ := fits.exists_sign failed
    obtain ⟨before, after, tokens⟩ := List.append_of_mem member
    refine ⟨before, token, after ++ rest, ?_, position, blamed _ _⟩
    rw [split, tokens, List.append_assoc, List.cons_append]

end Tokens

/-- Whether a word of a text starts at a position and has a text. -/
def Token.WordAt (settings : Settings) (source : String) (position : Nat) (text : String) : Prop :=
  ∃ word ∈ Token.scan settings source,
    word.kind ≠ .endOfInput ∧ word.span.start = position ∧ word.text = text

/-- Whether the cause of a fault is to be found in the text at its position. -/
def Fault.Explains (settings : Settings) (source : String) (fault : Fault) : Prop :=
  match fault.cause with
  | .emptyExpression | .invalidExpression none => fault.position = source.length
  | .invalidExpression (some text) =>
    fault.position < source.length ∧ Token.WordAt settings source fault.position text
  | .unmatchedParentheses =>
    (∃ index < fault.position, source.toList[index]? = some '(') ∧
      ∀ c, source.toList[fault.position]? = some c → c ∉ [')', '+', '-', '*', '/', '^']
  | .invalidNumber text =>
    fault.position < source.length ∧ Token.WordAt settings source fault.position text ∧
      (∀ c ∈ text.toList, isNumeral c = true) ∧
      ((∀ c ∈ text.toList, c.isDigit = false) ∨ 2 ≤ text.toList.count '.')
  | .invalidOperator _ => False
  | .divisionByZero => source.toList[fault.position]? = some '/'
  | .invalidPower => source.toList[fault.position]? = some '^'
  | .nestingTooDeep limit => limit = settings.maxDepth

/-- A cause that can be blamed on a token of a text is to be found in the text. -/
theorem Fault.Blames.explains {settings : Settings} {source : String} {fault : Fault}
    (blames : fault.Blames settings.maxDepth (Token.scan settings source)) :
    fault.Explains settings source := by
  obtain ⟨cause, position⟩ := fault
  obtain ⟨before, token, after, split, rfl, blamed⟩ := blames
  have member : token ∈ Token.scan settings source := by
    rw [split]
    exact List.mem_append_right _ List.mem_cons_self
  cases cause with
  | emptyExpression => exact Token.start_eq_of_mem_scan member blamed
  | invalidExpression found =>
    by_cases ending : token.kind = .endOfInput
    case pos =>
      rw [Fault.Cause.Blames, if_pos ending] at blamed
      subst blamed
      exact Token.start_eq_of_mem_scan member ending
    case neg =>
      rw [Fault.Cause.Blames, if_neg ending] at blamed
      subst blamed
      exact ⟨Token.start_lt_of_mem_scan member ending, token, member, ending, rfl, rfl⟩
  | unmatchedParentheses =>
    obtain ⟨⟨opening, inside, opens⟩, closing, single⟩ := blamed
    have sorted := Token.pairwise_scan settings source
    have memberOpening : opening ∈ Token.scan settings source := by
      rw [split]
      exact List.mem_append_left _ inside
    rw [split, List.pairwise_append] at sorted
    refine ⟨⟨opening.span.start, sorted.2.2 opening inside token List.mem_cons_self, ?_⟩, ?_⟩
    · exact Token.getElem?_of_symbol memberOpening (by rw [opens]; rfl)
    · intro c found symbol
      have plain : token.kind ≠ .endOfInput := by
        intro ending
        obtain ⟨below, -⟩ := List.getElem?_eq_some_iff.mp found
        rw [String.length_toList] at below
        exact absurd (Token.start_eq_of_mem_scan member ending) (Nat.ne_of_lt below)
      obtain ⟨other, same, kind⟩ := Token.getElem?_start member plain
      obtain rfl := Option.some.inj (found.symm.trans same)
      rw [kind] at closing single
      simp only [List.mem_cons, List.not_mem_nil, or_false] at symbol
      rcases symbol with rfl | rfl | rfl | rfl | rfl | rfl
      · exact closing rfl
      all_goals exact absurd single (by decide)
  | invalidNumber text =>
    obtain ⟨number, rfl, unread⟩ := blamed
    have plain : token.kind ≠ .endOfInput := by
      rw [number]
      decide
    have word : token ∈ Token.ofMarks (settings.marks source.toList) := by
      rcases Token.mem_scan_iff.mp member with word | rfl
      · exact word
      · exact absurd rfl plain
    have numeral := (Token.kind_eq_number_iff word).mp number
    refine ⟨Token.start_lt_of_mem_scan member plain, ⟨token, member, plain, rfl, rfl⟩, numeral, ?_⟩
    by_contra readable
    push Not at readable
    obtain ⟨⟨c, inside, digit⟩, points⟩ := readable
    have read := (Decimal.isSome_read?_iff numeral).mpr
      ⟨⟨c, inside, Bool.of_not_eq_false digit⟩, Nat.le_of_lt_succ points⟩
    rw [unread] at read
    cases read
  | invalidOperator symbol => exact blamed
  | divisionByZero => exact Token.getElem?_of_symbol member (by rw [blamed]; rfl)
  | invalidPower => exact Token.getElem?_of_symbol member (by rw [blamed]; rfl)
  | nestingTooDeep limit => exact blamed

/-- A fault of a calculation is at the end of the text or at one of its words, and its cause is to
be found there. -/
theorem explains_of_calculate {settings : Settings} {source : String} {fault : Fault}
    (failed : calculate settings source = .error fault) :
    fault.position ≤ source.length ∧
      (fault.position = source.length ∨
        ∃ text, Token.WordAt settings source fault.position text) ∧
      fault.Explains settings source := by
  have blames := blames_of_calculate failed
  have explains := blames.explains
  obtain ⟨before, token, after, split, position, -⟩ := blames
  have member : token ∈ Token.scan settings source := by
    rw [split]
    exact List.mem_append_right _ List.mem_cons_self
  rw [position]
  refine ⟨Token.start_le_of_mem_scan member, ?_, explains⟩
  by_cases ending : token.kind = .endOfInput
  · exact .inl (Token.start_eq_of_mem_scan member ending)
  · exact .inr ⟨token.text, token, member, ending, rfl, rfl⟩

/-- A number with two points, behind a parenthesis and a character that is dropped. -/
theorem explains_of_two_points :
    calculate .lenient "(é2.5.1" = .error ⟨.invalidNumber "2.5.1", 2⟩ ∧
    2 ≤ "(é2.5.1".length ∧
    (2 = "(é2.5.1".length ∨ ∃ text, Token.WordAt .lenient "(é2.5.1" 2 text) ∧
    Fault.Explains .lenient "(é2.5.1" ⟨.invalidNumber "2.5.1", 2⟩ := by
  have failed : calculate .lenient "(é2.5.1" = .error ⟨.invalidNumber "2.5.1", 2⟩ := by
    decide +kernel
  exact ⟨failed, explains_of_calculate failed⟩

end Calculator

import Calculator.Token.Cursor

/-!
# The tokens within reach

Reading never goes past the first mark for the end of the input. The tokens before it are the body
of a list of tokens. The added mark leaves the body as it is, and a cursor reads its body token by
token.
-/

namespace Calculator

namespace Token

/-- The tokens before the first mark for the end of the input. -/
def body (tokens : List Token) : List Token :=
  tokens.takeWhile fun token => token.kind != .endOfInput

@[simp] theorem body_nil : body [] = [] := rfl

theorem body_cons {token : Token} (word : token.kind ≠ .endOfInput) (tokens : List Token) :
    body (token :: tokens) = token :: body tokens := by
  simp [body, word]

theorem body_mark {mark : Token} (ending : mark.kind = .endOfInput) (tokens : List Token) :
    body (mark :: tokens) = [] := by
  simp [body, ending]

theorem body_append {words : List Token} (plain : ∀ token ∈ words, token.kind ≠ .endOfInput)
    (tokens : List Token) : body (words ++ tokens) = words ++ body tokens :=
  List.takeWhile_append_of_pos fun token member => by simpa using plain token member

theorem body_words {words : List Token} (plain : ∀ token ∈ words, token.kind ≠ .endOfInput) :
    body words = words := by
  have appended := body_append plain []
  rwa [body_nil, List.append_nil] at appended

theorem body_append_mark {mark : Token} (ending : mark.kind = .endOfInput)
    (tokens after : List Token) : body (tokens ++ mark :: after) = body tokens := by
  induction tokens with
  | nil => exact body_mark ending after
  | cons token tokens ih =>
    by_cases last : token.kind = .endOfInput
    · rw [List.cons_append, body_mark last, body_mark last]
    · rw [List.cons_append, body_cons last, body_cons last, ih]

/-- A list that holds a mark is its body, a mark and whatever follows. -/
theorem eq_body_append {tokens : List Token} (marked : ∃ token ∈ tokens, token.kind = .endOfInput) :
    ∃ mark after, mark.kind = .endOfInput ∧ tokens = body tokens ++ mark :: after := by
  induction tokens with
  | nil => simp at marked
  | cons token tokens ih =>
    by_cases ending : token.kind = .endOfInput
    · exact ⟨token, tokens, ending, by rw [body_mark ending]; rfl⟩
    · obtain ⟨other, member, last⟩ := marked
      have member : other ∈ tokens := by
        rcases List.mem_cons.mp member with rfl | member
        · exact absurd last ending
        · exact member
      obtain ⟨mark, after, first, split⟩ := ih ⟨other, member, last⟩
      refine ⟨mark, after, first, ?_⟩
      rw [body_cons ending, List.cons_append, ← split]

/-- The first mark of a list is where its body ends. -/
theorem findIdx_eq_length_body (tokens : List Token) :
    (tokens.findIdx fun token => token.kind == .endOfInput) = (body tokens).length := by
  induction tokens with
  | nil => rfl
  | cons token tokens ih =>
    rw [List.findIdx_cons]
    by_cases ending : token.kind = .endOfInput
    · rw [body_mark ending, beq_iff_eq.mpr ending]
      rfl
    · rw [body_cons ending, beq_false_of_ne ending, ih]
      rfl

/-- A mark is added where the last token stops, and only if that token is no mark. -/
theorem terminated_eq_ite (tokens : List Token) :
    terminated tokens = if tokens.getLast?.map kind = some .endOfInput then tokens
      else tokens ++ [finish ((tokens.getLast?.map fun last => last.span.stop).getD 0)] := by
  unfold terminated
  cases present : tokens.getLast? with
  | none =>
    rw [List.getLast?_eq_none_iff.mp present]
    rfl
  | some last => simp only [Option.map_some, Option.some.injEq, Option.getD_some]

theorem exists_mark_terminated (tokens : List Token) :
    ∃ token ∈ terminated tokens, token.kind = .endOfInput := by
  unfold terminated
  cases present : tokens.getLast? with
  | none => exact ⟨finish 0, by simp, rfl⟩
  | some last =>
    by_cases ending : last.kind = .endOfInput
    · exact ⟨last, by simpa [ending] using List.mem_of_getLast? present, ending⟩
    · exact ⟨finish last.span.stop, by simp [ending], rfl⟩

@[simp] theorem body_terminated (tokens : List Token) : body (terminated tokens) = body tokens := by
  unfold terminated
  cases present : tokens.getLast? with
  | none =>
    rw [List.getLast?_eq_none_iff.mp present]
    rfl
  | some last =>
    by_cases ending : last.kind = .endOfInput
    · simp only [ending, if_true]
    · simp only [ending, if_false]
      exact body_append_mark rfl tokens []

/-- A list that ends in a mark needs no other. -/
theorem terminated_append_mark {mark : Token} (ending : mark.kind = .endOfInput)
    (tokens : List Token) : terminated (tokens ++ [mark]) = tokens ++ [mark] := by
  rw [terminated, List.getLast?_concat]
  exact if_pos ending

theorem prefix_terminated (tokens : List Token) : tokens <+: terminated tokens := by
  unfold terminated
  cases present : tokens.getLast? with
  | none =>
    rw [List.getLast?_eq_none_iff.mp present]
    exact List.nil_prefix
  | some last =>
    by_cases ending : last.kind = .endOfInput
    · simp only [ending, if_true]
      exact List.prefix_refl tokens
    · simp only [ending, if_false]
      exact List.prefix_append tokens _

/-- What a parser is given: the body, a mark, and tokens out of reach. -/
theorem terminated_eq (tokens : List Token) :
    ∃ mark after, mark.kind = .endOfInput ∧ terminated tokens = body tokens ++ mark :: after := by
  simpa using eq_body_append (exists_mark_terminated tokens)

end Token

namespace Cursor

/-- The number of tokens that a cursor can still read. -/
def remaining (cursor : Cursor) : Nat := (Token.body cursor.rest).length

@[simp] theorem remaining_note (cursor : Cursor) (event : Event) :
    (cursor.note event).remaining = cursor.remaining := rfl

theorem hasToken_iff {cursor : Cursor} :
    cursor.hasToken = true ↔ cursor.current.kind ≠ .endOfInput := by
  simp [hasToken]

theorem rest_eq {cursor : Cursor} (word : cursor.current.kind ≠ .endOfInput) :
    cursor.rest = cursor.current :: cursor.advance.rest := by
  obtain ⟨rest, log⟩ := cursor
  cases rest with
  | nil => exact absurd rfl word
  | cons token rest =>
    rw [current_cons] at word
    simp [advance_cons, word]

/-- Nothing can be read exactly at a mark, and at the end of a list. -/
theorem body_rest_eq_nil_iff {cursor : Cursor} :
    Token.body cursor.rest = [] ↔ cursor.current.kind = .endOfInput := by
  obtain ⟨rest, log⟩ := cursor
  cases rest with
  | nil => exact ⟨fun _ => rfl, fun _ => rfl⟩
  | cons token rest =>
    rw [current_cons]
    refine ⟨fun empty => ?_, fun ending => Token.body_mark ending rest⟩
    apply Classical.byContradiction
    intro word
    rw [Token.body_cons word] at empty
    cases empty

theorem advance_of_mark {cursor : Cursor} (ending : cursor.current.kind = .endOfInput) :
    cursor.advance = cursor := by
  simp [advance, hasToken, ending]

theorem body_rest_eq {cursor : Cursor} (word : cursor.current.kind ≠ .endOfInput) :
    Token.body cursor.rest = cursor.current :: Token.body cursor.advance.rest := by
  rw [rest_eq word, Token.body_cons word]

theorem remaining_pos_iff {cursor : Cursor} :
    0 < cursor.remaining ↔ cursor.current.kind ≠ .endOfInput := by
  rw [remaining, List.length_pos_iff, ne_eq, body_rest_eq_nil_iff]

/-- Reading takes one token off those that are left, if there is one. -/
@[simp] theorem remaining_advance (cursor : Cursor) :
    cursor.advance.remaining = cursor.remaining - 1 := by
  by_cases ending : cursor.current.kind = .endOfInput
  · rw [advance_of_mark ending, remaining, body_rest_eq_nil_iff.mpr ending]
    rfl
  · rw [remaining, remaining, body_rest_eq ending, List.length_cons]
    omega

/-- Whether a cursor has a mark to stop at. -/
def Marked (cursor : Cursor) : Prop := ∃ token ∈ cursor.rest, token.kind = .endOfInput

theorem Marked.note {cursor : Cursor} (marked : cursor.Marked) (event : Event) :
    (cursor.note event).Marked := marked

/-- A cursor that has a mark to stop at stands at a token. -/
theorem Marked.current_mem {cursor : Cursor} (marked : cursor.Marked) :
    cursor.current ∈ cursor.rest := by
  obtain ⟨rest, log⟩ := cursor
  obtain ⟨mark, member, -⟩ := marked
  cases rest with
  | nil => cases member
  | cons token rest => exact List.mem_cons_self

theorem Marked.advance {cursor : Cursor} (marked : cursor.Marked) : cursor.advance.Marked := by
  by_cases ending : cursor.current.kind = .endOfInput
  case pos => rwa [advance_of_mark ending]
  obtain ⟨mark, member, last⟩ := marked
  rw [rest_eq ending] at member
  rcases List.mem_cons.mp member with rfl | later
  · exact absurd last ending
  · exact ⟨mark, later, last⟩

theorem advance_suffix (cursor : Cursor) : cursor.advance.rest <:+ cursor.rest := by
  by_cases ending : cursor.current.kind = .endOfInput
  · simpa only [advance_of_mark ending] using List.suffix_refl cursor.rest
  · rw [rest_eq ending]
    exact List.suffix_cons _ _

/-- A cursor stays in front of a mark. -/
theorem suffix_advance_of_mark {cursor : Cursor} {mark : Token} {after : List Token}
    (ending : mark.kind = .endOfInput) (ahead : mark :: after <:+ cursor.rest) :
    mark :: after <:+ cursor.advance.rest := by
  by_cases last : cursor.current.kind = .endOfInput
  case pos => rwa [advance_of_mark last]
  rw [rest_eq last, List.suffix_cons_iff] at ahead
  rcases ahead with same | further
  · cases same
    exact absurd ending last
  · exact further

/-- There is something to be read unless the body is empty. -/
theorem hasToken_terminated_iff {tokens : List Token} {log : Array Event} :
    (Cursor.mk (Token.terminated tokens) log).hasToken = true ↔ Token.body tokens ≠ [] := by
  rw [hasToken_iff, ne_eq, ← body_rest_eq_nil_iff, Token.body_terminated]

end Cursor

end Calculator

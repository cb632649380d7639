import Calculator.Proofs.Text.Line
import Calculator.Proofs.Token.Word

/-!
# A listing of scanned tokens can be read in one way

A listing writes the texts of tokens as they are, also where they are commas or brackets. But a text
stands there only between the parentheses behind the name of its kind, and what a scanner reads as a
number has no parenthesis, and what it does not recognise is a single character. So no token that a
text is scanned into is shown like the beginning of another one (`display_append_inj`), and a listing
tells the kinds and the texts of all its tokens (`listing_scan_eq_iff`).
-/

namespace Calculator.Token

/-- The kinds and the texts of tokens, without the marks for the end of the input. -/
def contents (tokens : List Token) : List (Kind × String) :=
  (tokens.filter fun token => token.kind != .endOfInput).map fun token => (token.kind, token.text)

/-- The tokens that a text can be scanned into. -/
inductive IsLexeme : Token → Prop where
  | number {text : String} {span : Span} (numeral : ∀ c ∈ text.toList, isNumeral c = true) :
      IsLexeme ⟨.number, text, span⟩
  | symbol {c : Char} {kind : Kind} {span : Span} (known : Kind.ofSymbol? c = some kind) :
      IsLexeme ⟨kind, String.singleton c, span⟩
  | unknown {c : Char} {span : Span} : IsLexeme ⟨.unknown, String.singleton c, span⟩

variable {first second token : Token} {tokens listed : List Token} {rest others : List Char}

theorem isLexeme_of_mem_ofMarks {marks : List Mark} (member : token ∈ ofMarks marks) :
    token.IsLexeme := by
  obtain ⟨mark, run, found, -, rfl⟩ := mem_ofMarks_iff.mp member
  rcases numeral_or_single found with numeral | ⟨alone, same, other⟩
  · rw [Kind.ofChar_numeral (numeral mark List.mem_cons_self)]
    refine .number ?_
    rw [toList_textOf, List.forall_mem_map]
    exact numeral
  · obtain ⟨rfl, rfl⟩ := List.cons.inj same
    rw [textOf_singleton]
    cases symbol : Kind.ofSymbol? mark.1 with
    | some kind =>
      rw [Kind.ofChar_symbol symbol]
      exact .symbol symbol
    | none =>
      rw [Kind.ofChar, other, symbol]
      exact .unknown

/-! ## One token -/

/-- No name of a kind is the beginning of another. -/
theorem Kind.name_append_inj {kind other : Kind}
    (same : kind.name.toList ++ rest = other.name.toList ++ others) :
    kind = other ∧ rest = others := by
  have apart : ∀ kind ∈ all, ∀ other ∈ all,
      kind.name.toList <+: other.name.toList → kind = other := by decide
  have equal : kind = other := by
    rcases List.prefix_or_prefix_of_prefix (List.prefix_append kind.name.toList rest)
      (same ▸ List.prefix_append other.name.toList others) with shorter | longer
    · exact apart kind (mem_all kind) other (mem_all other) shorter
    · exact (apart other (mem_all other) kind (mem_all kind) longer).symm
  rw [equal] at same
  exact ⟨equal, List.append_cancel_left same⟩

/-- What is shown of a token behind the name of its kind. -/
def details (token : Token) : List Char :=
  match token.kind with
  | .number | .unknown => '(' :: token.text.toList ++ [')']
  | _ => []

theorem toList_display_append (token : Token) (rest : List Char) :
    token.display.toList ++ rest = token.kind.name.toList ++ (token.details ++ rest) := by
  obtain ⟨kind, text, span⟩ := token
  cases kind <;> simp [display, details]

theorem details_number_append (text : String) (span : Span) (rest : List Char) :
    details ⟨.number, text, span⟩ ++ rest = '(' :: (text.toList ++ ')' :: rest) := by
  simp [details]

theorem details_unknown_append (c : Char) (span : Span) (rest : List Char) :
    details ⟨.unknown, String.singleton c, span⟩ ++ rest = '(' :: c :: ')' :: rest := by
  simp [details]

theorem details_symbol {c : Char} {kind : Kind} (known : Kind.ofSymbol? c = some kind)
    (text : String) (span : Span) : details ⟨kind, text, span⟩ = [] := by
  obtain ⟨notNumber, notUnknown, -⟩ := Kind.ne_of_ofSymbol? known
  cases kind <;> first | contradiction | rfl

/-- Where a text starts with a token as it is shown, it does so in one way. -/
theorem display_append_inj (same : first.display.toList ++ rest = second.display.toList ++ others)
    (lexeme : first.IsLexeme) (lexemeSecond : second.IsLexeme) :
    (first.kind, first.text) = (second.kind, second.text) ∧ rest = others := by
  rw [toList_display_append, toList_display_append] at same
  obtain ⟨kinds, shown⟩ := Kind.name_append_inj same
  cases lexeme with
  | number numeral =>
    cases lexemeSecond with
    | number numeralSecond =>
      rw [details_number_append, details_number_append] at shown
      have closed (rest : List Char) : ∀ c ∈ (')' :: rest).head?, isNumeral c = false := by
        rintro c ⟨⟩
        decide
      obtain ⟨texts, closing⟩ := Text.append_inj_of_stop (List.cons.inj shown).2 numeral
        numeralSecond (closed rest) (closed others)
      exact ⟨congrArg _ (String.toList_inj.mp texts), (List.cons.inj closing).2⟩
    | symbol known => exact absurd kinds.symm (Kind.ne_of_ofSymbol? known).1
    | unknown => cases kinds
  | symbol known =>
    cases lexemeSecond with
    | number => exact absurd kinds (Kind.ne_of_ofSymbol? known).1
    | symbol knownSecond =>
      rw [details_symbol known, details_symbol knownSecond] at shown
      cases kinds
      rw [Kind.ofSymbol?_injective known knownSecond]
      exact ⟨rfl, shown⟩
    | unknown => exact absurd kinds (Kind.ne_of_ofSymbol? known).2.1
  | unknown =>
    cases lexemeSecond with
    | number => cases kinds
    | symbol known => exact absurd kinds.symm (Kind.ne_of_ofSymbol? known).2.1
    | unknown =>
      rw [details_unknown_append, details_unknown_append] at shown
      cases shown
      exact ⟨rfl, rfl⟩

/-! ## Lists of tokens -/

/-- What a listing shows after a token, of further tokens. -/
def listedAfter : List Token → List Char
  | [] => [']']
  | token :: tokens => ',' :: ' ' :: (token.display.toList ++ listedAfter tokens)

/-- What a listing shows behind its first bracket. -/
def listedFrom : List Token → List Char
  | [] => [']']
  | token :: tokens => token.display.toList ++ listedAfter tokens

theorem toList_intercalate_display (tokens : List Token) :
    (", ".intercalate (tokens.map display)).toList ++ [']'] = listedFrom tokens := by
  induction tokens with
  | nil => rfl
  | cons token tokens ih =>
    cases tokens with
    | nil => simp [listedFrom, listedAfter]
    | cons next tokens =>
      rw [List.map_cons, List.map_cons, String.intercalate_cons_cons, ← List.map_cons,
        String.toList_append, List.append_assoc, ih, String.toList_append, List.append_assoc]
      rfl

theorem toList_listing (tokens : List Token) :
    (listing tokens).toList =
      '[' :: listedFrom (tokens.filter fun token => token.kind != .endOfInput) := by
  rw [← toList_intercalate_display, listing, String.toList_append, String.toList_append,
    List.append_assoc]
  rfl

/-- Where scanned tokens are shown alike after others, their kinds and texts are the same. -/
theorem map_content_of_listedAfter (lexemes : ∀ token ∈ tokens, token.IsLexeme)
    (lexemesListed : ∀ token ∈ listed, token.IsLexeme)
    (same : listedAfter tokens = listedAfter listed) :
    tokens.map (fun token => (token.kind, token.text)) =
      listed.map fun token => (token.kind, token.text) := by
  induction tokens generalizing listed with
  | nil =>
    cases listed with
    | nil => rfl
    | cons other listed => cases same
  | cons token tokens ih =>
    cases listed with
    | nil => cases same
    | cons other listed =>
      rw [List.forall_mem_cons] at lexemes lexemesListed
      obtain ⟨content, further⟩ := display_append_inj (List.cons.inj (List.cons.inj same).2).2
        lexemes.1 lexemesListed.1
      rw [List.map_cons, List.map_cons, content, ih lexemes.2 lexemesListed.2 further]

/-- No token is shown with a bracket at its start. -/
theorem display_append_ne (token : Token) (rest others : List Char) :
    token.display.toList ++ rest ≠ ']' :: others := by
  rw [toList_display_append]
  cases token.kind <;> simp [Kind.name]

/-- Where scanned tokens are shown alike, their kinds and texts are the same. -/
theorem map_content_of_listedFrom (lexemes : ∀ token ∈ tokens, token.IsLexeme)
    (lexemesListed : ∀ token ∈ listed, token.IsLexeme)
    (same : listedFrom tokens = listedFrom listed) :
    tokens.map (fun token => (token.kind, token.text)) =
      listed.map fun token => (token.kind, token.text) := by
  cases tokens with
  | nil =>
    cases listed with
    | nil => rfl
    | cons other listed => exact absurd same.symm (display_append_ne other _ _)
  | cons token tokens =>
    cases listed with
    | nil => exact absurd same (display_append_ne token _ _)
    | cons other listed =>
      rw [List.forall_mem_cons] at lexemes lexemesListed
      obtain ⟨content, further⟩ := display_append_inj same lexemes.1 lexemesListed.1
      rw [List.map_cons, List.map_cons, content,
        map_content_of_listedAfter lexemes.2 lexemesListed.2 further]

theorem contents_of_listing (lexemes : ∀ token ∈ tokens, token.kind ≠ .endOfInput → token.IsLexeme)
    (lexemesListed : ∀ token ∈ listed, token.kind ≠ .endOfInput → token.IsLexeme)
    (same : listing tokens = listing listed) : contents tokens = contents listed := by
  have shown := congrArg String.toList same
  rw [toList_listing, toList_listing] at shown
  refine map_content_of_listedFrom ?_ ?_ (List.cons.inj shown).2
  · simpa using lexemes
  · simpa using lexemesListed

/-- The listing of a token shows its kind and its text at most. -/
theorem listing_of_contents (same : contents tokens = contents listed) :
    listing tokens = listing listed := by
  have shown (tokens : List Token) :
      (tokens.filter fun token => token.kind != .endOfInput).map display =
        (contents tokens).map fun content => display ⟨content.1, content.2, default⟩ := by
    rw [contents, List.map_map]
    rfl
  rw [listing, listing, shown, shown, same]

/-- A listing of scanned tokens loses nothing: what two texts are scanned into, strictly or not, is
listed alike just when the kinds and the texts of the tokens are the same and in the same order. -/
theorem listing_scan_eq_iff (settings other : Settings) (source text : String) :
    listing (scan settings source) = listing (scan other text) ↔
      contents (scan settings source) = contents (scan other text) := by
  have lexemes (settings : Settings) (source : String) (token)
      (member : token ∈ scan settings source) (plain : token.kind ≠ .endOfInput) :
      token.IsLexeme := by
    rcases mem_scan_iff.mp member with word | rfl
    · exact isLexeme_of_mem_ofMarks word
    · exact absurd rfl plain
  exact ⟨contents_of_listing (lexemes settings source) (lexemes other text), listing_of_contents⟩

-- A comma and a bracket that were scanned stand between parentheses.
example : listing (scan default ",]") = "[Unknown(,), Unknown(])]" := by decide +kernel

end Calculator.Token

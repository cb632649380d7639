import Calculator.Proofs.Grammar.Trailing
import Calculator.Proofs.Parser.Relocation
import Calculator.Proofs.Token.Word

/-!
# Lenient settings

A scanner under lenient settings takes nothing out of its text. It reads what a strict scanner would
read in the text without its unrecognised characters, at the places where the characters that are
left come from (`Token.scan_lenient`). Since the parser does not look at places, the two texts have
one value, or one fault at places that correspond.

Lenient settings take nothing away from strict ones: a text that is parsed as a whole under strict
settings has no unrecognised character, since no phrase has a token for one, and it is parsed into
the same tree under all settings with the same limit.
-/

namespace Calculator

namespace Text

/-- The text without its unrecognised characters. -/
def recognised (source : String) : String :=
  String.ofList (source.toList.filter fun c => !isUnrecognised c)

/-- The positions of the recognised characters. -/
def origins (source : String) : List Nat :=
  (source.toList.zipIdx.filter fun mark => !isUnrecognised mark.1).map Prod.snd

/-- Where a character of the recognised text comes from. Its end comes from the end of the text. -/
def origin (source : String) (index : Nat) : Nat := (origins source).getD index source.length

theorem fst_recognised (source : String) :
    (source.toList.zipIdx.filter fun mark => !isUnrecognised mark.1).map Prod.fst =
      (recognised source).toList := by
  have filtered := List.filter_map (p := fun c => !isUnrecognised c) (f := Prod.fst)
    (l := source.toList.zipIdx)
  rw [List.zipIdx_map_fst] at filtered
  rw [recognised, String.toList_ofList, filtered]
  rfl

theorem length_origins (source : String) :
    (origins source).length = (recognised source).length := by
  rw [← String.length_toList, ← fst_recognised, origins, List.length_map, List.length_map]

@[simp] theorem origin_length (source : String) :
    origin source (recognised source).length = source.length := by
  rw [origin, ← length_origins, List.getD_eq_getElem?_getD, List.getElem?_length]
  rfl

theorem origin_eq_getElem {source : String} {index : Nat} (below : index < (origins source).length) :
    origin source index = (origins source)[index] := by
  rw [origin, List.getD_eq_getElem?_getD, List.getElem?_eq_getElem below]
  rfl

/-- The recognised characters, each with the position that it comes from. -/
theorem recognised_zipIdx (source : String) :
    (recognised source).toList.zipIdx.map (Prod.map id (origin source)) =
      source.toList.zipIdx.filter fun mark => !isUnrecognised mark.1 := by
  have firsts := fst_recognised source
  apply List.ext_getElem
  · rw [List.length_map, List.length_zipIdx, ← firsts, List.length_map]
  · intro index below belowMarks
    have inside : index < (origins source).length := by
      rwa [origins, List.length_map]
    simp only [List.getElem_map, List.getElem_zipIdx, Nat.zero_add, ← firsts, Prod.map, id_eq]
    rw [origin_eq_getElem inside]
    simp only [origins, List.getElem_map]

example : recognised "1$2" = "12" ∧ (List.range 3).map (origin "1$2") = [0, 2, 3] := by decide

end Text

/-! ## Tokens of moved characters -/

theorem pieces_map (f : Nat → Nat) (marks : List Mark) :
    pieces (marks.map (Prod.map id f)) = (pieces marks).map (List.map (Prod.map id f)) := by
  rw [pieces, List.splitBy_eq_iff]
  refine ⟨?_, ?_, ?_, ?_⟩
  · rw [← List.map_flatten, flatten_pieces]
  · intro empty
    obtain ⟨piece, member, none⟩ := List.mem_map.mp empty
    rw [List.map_eq_nil_iff] at none
    rw [none] at member
    exact List.nil_notMem_splitBy _ marks member
  · intro other member
    obtain ⟨piece, inside, rfl⟩ := List.mem_map.mp member
    rw [List.isChain_map]
    exact List.isChain_of_mem_splitBy inside
  · rw [List.isChain_map]
    refine (List.isChain_getLast_head_splitBy _ marks).imp ?_
    rintro one other ⟨some, others, apart⟩
    refine ⟨by simpa using some, by simpa using others, ?_⟩
    simpa [List.getLast_map, List.head_map] using apart

namespace Token

/-- The word of the same characters at other positions. -/
def relocate (position : Nat → Nat) (word : Token) : Token :=
  { word with span := ⟨position word.span.start, position (word.span.stop - 1) + 1⟩ }

theorem ofPiece?_map (f : Nat → Nat) (piece : List Mark) :
    ofPiece? (piece.map (Prod.map id f)) = (ofPiece? piece).map (relocate f) := by
  cases piece with
  | nil => rfl
  | cons first rest =>
    have text : textOf ((first :: rest).map (Prod.map id f)) = textOf (first :: rest) := by
      rw [textOf, textOf, List.map_map]
      rfl
    have last : (rest.map (Prod.map id f)).getLastD (Prod.map id f first) =
        Prod.map id f (rest.getLastD first) := List.getLastD_map
    rw [List.map_cons] at text ⊢
    rw [ofPiece?, ofPiece?, text, last]
    by_cases blank : Text.isBlank first.1 = true
    · rw [if_pos blank]
      exact if_pos blank
    · rw [if_neg blank]
      exact if_neg blank

theorem ofMarks_map (f : Nat → Nat) (marks : List Mark) :
    ofMarks (marks.map (Prod.map id f)) = (ofMarks marks).map (relocate f) := by
  rw [ofMarks, ofMarks, pieces_map, List.filterMap_map, List.map_filterMap]
  exact List.filterMap_congr fun piece _ => ofPiece?_map f piece

/-- Under lenient settings the words of the recognised text are scanned, at the places that they
come from. -/
theorem scan_lenient (settings : Settings) (source : String) :
    ∃ words, (∀ word ∈ words, word.kind ≠ .endOfInput) ∧
      scan (settings.withStrict true) (Text.recognised source) =
        words ++ [finish (Text.recognised source).length] ∧
      scan (settings.withStrict false) source =
        words.map (relocate (Text.origin source)) ++ [finish source.length] := by
  refine ⟨ofMarks (Text.recognised source).toList.zipIdx, ?_, ?_, ?_⟩
  · intro word
    exact kind_ne_of_mem_ofMarks
  · have marks : (settings.withStrict true).marks (Text.recognised source).toList =
        (Text.recognised source).toList.zipIdx := Settings.marks_eq_zipIdx (fun _ _ => rfl) 0
    rw [scan_eq, marks]
  · have marks : (settings.withStrict false).marks source.toList =
        source.toList.zipIdx.filter fun mark => !isUnrecognised mark.1 := rfl
    rw [scan_eq, marks, ← Text.recognised_zipIdx, ofMarks_map]

/-- Words that are relocated start where their first characters come from. -/
theorem moves_relocate {position : Nat → Nat} {first last : Nat} (ends : position first = last)
    (words : List Token) :
    List.Forall₂ (Token.Moves (.ofStarts position)) (words ++ [finish first])
      (words.map (relocate position) ++ [finish last]) := by
  have mark : (finish first).Moves (.ofStarts position) (finish last) := ⟨rfl, rfl, ends.symm⟩
  induction words with
  | nil => exact .cons mark .nil
  | cons word words ih => exact .cons ⟨rfl, rfl, rfl⟩ ih

end Token

/-- Under lenient settings a text is scanned as the text of its recognised characters is under
strict settings, with each word at its characters, and it has the same value, or the same fault
where that comes from. -/
theorem lenient_eq_strict_recognised (settings : Settings) (source : String) :
    (∃ words, (∀ word ∈ words, word.kind ≠ .endOfInput) ∧
      Token.scan (settings.withStrict true) (Text.recognised source) =
        words ++ [Token.finish (Text.recognised source).length] ∧
      Token.scan (settings.withStrict false) source =
        words.map (Token.relocate (Text.origin source)) ++ [Token.finish source.length]) ∧
    (∀ word ∈ Token.scan (settings.withStrict false) source, word.kind ≠ .endOfInput →
      source.toList[word.span.start]? = word.text.toList.head? ∧
      source.toList[word.span.stop - 1]? = word.text.toList.getLast?) ∧
    calculate (settings.withStrict false) source =
      (calculate (settings.withStrict true) (Text.recognised source)).mapError
        (Fault.move (Text.origin source)) := by
  obtain ⟨words, plain, strict, lenient⟩ := Token.scan_lenient settings source
  have related := Token.moves_relocate (Text.origin_length source) words
  rw [← strict, ← lenient] at related
  refine ⟨⟨words, plain, strict, lenient⟩, ?_, calculate_of_moves related⟩
  intro word member
  exact Token.ends_of_mem_scan member

/-! ## What strict settings accept -/

/-- Without unrecognised characters a text is scanned alike under all settings. -/
theorem Token.scan_eq_of_known {settings : Settings} {source : String}
    (strict : settings.strict = true)
    (known : ∀ token ∈ scan settings source, token.kind ≠ .unknown) (other : Settings) :
    scan other source = scan settings source := by
  have marks : settings.marks source.toList = source.toList.zipIdx :=
    Settings.marks_eq_zipIdx (fun c _ => by simp [Settings.keeps, strict]) 0
  have recognised : ∀ c ∈ source.toList, isUnrecognised c = false := by
    intro c member
    apply Bool.eq_false_iff.mpr
    intro unknown
    obtain ⟨single, visible, -⟩ := isUnrecognised_iff.mp unknown
    obtain ⟨index, found⟩ := List.mem_iff_getElem?.mp member
    have mark : (c, index) ∈ settings.marks source.toList := by
      rw [marks]
      exact List.mem_zipIdx_iff_getElem?.mpr found
    have word := mem_ofMarks_of_single mark single visible
    exact known _ (mem_scan_iff.mpr (.inl word)) (Kind.ofChar_unrecognised unknown)
  have kept : ∀ c ∈ source.toList, other.keeps c = true := by
    intro c member
    simp [Settings.keeps, recognised c member]
  rw [scan_eq, scan_eq, marks, Settings.marks_eq_zipIdx kept]

/-- No token of a whole expression is for an unrecognised character. -/
theorem Token.kind_ne_unknown_of_outcome {settings : Settings} {source : String} {tree : Expr}
    (alone : settings.trailing = false)
    (accepted : (parseTokens settings (scan settings source)).outcome = .ok tree) :
    ∀ token ∈ scan settings source, token.kind ≠ .unknown := by
  obtain ⟨phrase, derived, written, -⟩ := exists_derives_of_outcome alone accepted
  have body : body (scan settings source) = ofMarks (settings.marks source.toList) := by
    rw [scan_eq, body_append_mark rfl, body_words fun _ => kind_ne_of_mem_ofMarks]
  have known := (derives_expr_iff.mp derived).kind_ne_of_unbound rfl rfl (by decide : .unknown ≠ _)
  rw [written, body] at known
  intro token member
  rcases mem_scan_iff.mp member with word | rfl
  · exact known token word
  · exact Kind.noConfusion

/-- A text that is parsed under strict settings with nothing after it is parsed into the same tree
under all settings with the same limit, so that it has the same value, or the same fault. -/
theorem parse_of_strict (settings : Settings) {source : String} {tree : Expr}
    (accepted : (parse ((settings.withStrict true).withTrailing false) source).outcome = .ok tree)
    (strict trailing : Bool) :
    (parse ((settings.withStrict strict).withTrailing trailing) source).outcome = .ok tree ∧
      calculate ((settings.withStrict strict).withTrailing trailing) source = tree.value := by
  rw [(yields_parse _ source).outcome] at accepted
  have known := Token.kind_ne_unknown_of_outcome rfl accepted
  have scanned := Token.scan_eq_of_known rfl known
    ((settings.withStrict strict).withTrailing trailing)
  -- the parser does not ask whether characters are kept
  have parsed : (parseTokens ((settings.withStrict strict).withTrailing trailing)
      (Token.scan ((settings.withStrict true).withTrailing false) source)).outcome = .ok tree :=
    outcome_withTrailing_of_ok accepted trailing
  rw [← scanned] at parsed
  constructor
  · rw [(yields_parse _ source).outcome, parsed]
  · rw [calculate_eq, parsed]
    rfl

/-- Under lenient settings `2/3` is parsed as under strict ones. -/
theorem parse_of_strict_quotient :
    (parse .lenient "2/3").outcome = .ok (.binary ⟨.div, ⟨1, 2⟩⟩
      (.literal (.ofScientific 2 false 0) ⟨0, 1⟩) (.literal (.ofScientific 3 false 0) ⟨2, 3⟩)) ∧
    calculate .lenient "2/3" = (Expr.binary ⟨.div, ⟨1, 2⟩⟩
      (.literal (.ofScientific 2 false 0) ⟨0, 1⟩)
      (.literal (.ofScientific 3 false 0) ⟨2, 3⟩)).value := by
  let quotient : Phrase := .operation (.number ⟨.number, "2", ⟨0, 1⟩⟩ (.ofScientific 2 false 0))
    .div ⟨.slash, "/", ⟨1, 2⟩⟩ (.number ⟨.number, "3", ⟨2, 3⟩⟩ (.ofScientific 3 false 0))
  have derived : Derives .expr quotient :=
    .term (.product (.inr rfl) rfl (.power (.unary (.primary (.number rfl rfl))))
      (.unary (.primary (.number rfl rfl))))
  have scanned : Token.scan {} "2/3" = quotient.tokens ++ [.finish 3] := by
    rw [Token.scan_eq]
    rfl
  have accepted : (parse {} "2/3").outcome = .ok quotient.tree := by
    rw [(yields_parse {} "2/3").outcome, scanned]
    exact (derived.needsLevels rfl {}).1 (by decide)
  exact parse_of_strict {} accepted false true

end Calculator

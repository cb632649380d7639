import Calculator.Proofs.Token.Piece

/-!
# What a scanner reads

After every step the tokens of a scanner are those of the marked characters that it has passed, and
the last of these tokens may still grow exactly if the last character that was not dropped is a
digit or a point. With this invariant the tokens of a whole text are those of its marks
(`Token.scan_eq`), whatever the steps have been.
-/

namespace Calculator

namespace Settings

variable {settings : Settings} {text : List Char} {c : Char}

theorem keeps_of_isNumeral (numeral : isNumeral c = true) : settings.keeps c = true := by
  simp [keeps, isUnrecognised, numeral]

theorem keeps_of_isBlank (blank : Text.isBlank c = true) : settings.keeps c = true := by
  simp [keeps, isUnrecognised, blank]

theorem keeps_of_ofSymbol? {kind : Token.Kind} (symbol : Token.Kind.ofSymbol? c = some kind) :
    settings.keeps c = true := by
  simp [keeps, isUnrecognised, symbol]

theorem marks_append (settings : Settings) (first second : List Char) (position : Nat) :
    settings.marks (first ++ second) position =
      settings.marks first position ++ settings.marks second (position + first.length) := by
  rw [marks, List.zipIdx_append, List.filter_append]
  rfl

/-- Where nothing is dropped, the marks are all characters. -/
theorem marks_eq_zipIdx (kept : ∀ c ∈ text, settings.keeps c = true) (position : Nat) :
    settings.marks text position = text.zipIdx position :=
  List.filter_eq_self.mpr fun _ member => kept _ (List.fst_mem_of_mem_zipIdx member)

theorem marks_append_kept (settings : Settings) (past : List Char)
    (kept : ∀ c ∈ text, settings.keeps c = true) :
    settings.marks (past ++ text) = settings.marks past ++ text.zipIdx past.length := by
  rw [marks_append, marks_eq_zipIdx kept, Nat.zero_add]

theorem marks_append_dropped (past : List Char) (dropped : settings.keeps c = false) :
    settings.marks (past ++ [c]) = settings.marks past := by
  rw [marks_append]
  simp [marks, dropped]

end Settings

theorem Token.Kind.ofChar_ne_number {c : Char} (single : isNumeral c = false) :
    ofChar c ≠ .number := by
  rw [ofChar, single]
  unfold ofSymbol?
  simp only [Bool.false_eq_true, if_false]
  split <;> decide

namespace Scanner

variable {settings : Settings} {past text rest : List Char} {c : Char} {scanner : Scanner}

/-- What a scanner may read in one step, and what it is then: some digits and points, some blank
characters, or a single other character. -/
inductive Reads (scanner : Scanner) : List Char → Scanner → Prop where
  | number (word : String) (nonempty : word ≠ "")
      (numeral : ∀ digit ∈ word.toList, isNumeral digit = true) :
      Reads scanner word.toList (scanner.readNumber word)
  | blank (word : String) (nonempty : word ≠ "")
      (blank : ∀ other ∈ word.toList, Text.isBlank other = true) :
      Reads scanner word.toList (scanner.skipBlank word)
  | symbol (c : Char) (kind : Token.Kind) (symbol : Token.Kind.ofSymbol? c = some kind) :
      Reads scanner [c] (scanner.read kind (String.singleton c))
  | unrecognised (c : Char) (unknown : isUnrecognised c = true) :
      Reads scanner [c] (scanner.readUnrecognised c)

/-- A step reads the characters that it uses up. -/
theorem exists_reads (scanner : Scanner) (c : Char) (rest : List Char) :
    ∃ piece, c :: rest = piece ++ (scanner.step c rest).2 ∧
      scanner.Reads piece (scanner.step c rest).1 := by
  unfold Scanner.step
  by_cases numeral : isNumeral c = true
  case pos =>
    rw [if_pos numeral]
    refine ⟨c :: rest.takeWhile isNumeral, by simp, ?_⟩
    have reads : scanner.Reads _ _ := .number (String.ofList (c :: rest.takeWhile isNumeral))
      (by simp) (by simpa [numeral] using fun d => List.mem_takeWhile_imp)
    rwa [String.toList_ofList] at reads
  rw [if_neg numeral]
  by_cases blank : Text.isBlank c = true
  case pos =>
    rw [if_pos blank]
    refine ⟨c :: rest.takeWhile Text.isBlank, by simp, ?_⟩
    have reads : scanner.Reads _ _ := .blank (String.ofList (c :: rest.takeWhile Text.isBlank))
      (by simp) (by simpa [blank] using fun d => List.mem_takeWhile_imp)
    rwa [String.toList_ofList] at reads
  rw [if_neg blank]
  refine ⟨[c], ?_⟩
  cases symbol : Token.Kind.ofSymbol? c with
  | some kind => exact ⟨rfl, .symbol c kind symbol⟩
  | none =>
    refine ⟨rfl, .unrecognised c (isUnrecognised_iff.mpr ⟨?_, ?_, symbol⟩)⟩
    · exact Bool.eq_false_iff.mpr numeral
    · exact Bool.eq_false_iff.mpr blank

/-- What every step keeps is kept by a run, with the characters that have been read so far. -/
theorem run_keeps {motive : List Char → Scanner → Prop}
    (keeps : ∀ {past piece : List Char} {scanner next : Scanner}, motive past scanner →
      scanner.Reads piece next → motive (past ++ piece) next)
    (before : motive past scanner) (text : List Char) :
    motive (past ++ text) (scanner.run text) := by
  fun_induction Scanner.run scanner text generalizing past with
  | case1 scanner =>
    rw [List.append_nil]
    exact before
  | case2 scanner c rest next =>
    rename_i ih
    obtain ⟨piece, split, reads⟩ := scanner.exists_reads c rest
    rw [split, ← List.append_assoc]
    exact ih (keeps before reads)

/-- Whether a scanner stands after a text that it has read under the settings. -/
structure HasRead (settings : Settings) (past : List Char) (scanner : Scanner) : Prop where
  strict : scanner.strict = settings.strict
  column : scanner.column = past.length
  emitted : scanner.emitted = (Token.ofMarks (settings.marks past)).reverse
  extends_iff : scanner.extendsNumber = true ↔
    ∃ last ∈ (settings.marks past).getLast?, isNumeral last.1 = true

theorem hasRead_start (settings : Settings) : HasRead settings [] (start settings) where
  strict := rfl
  column := rfl
  emitted := rfl
  extends_iff := by simp [start, Settings.marks]

@[simp] theorem column_read (scanner : Scanner) (kind : Token.Kind) (word : String) :
    (scanner.read kind word).column = scanner.column + word.length := rfl

@[simp] theorem emitted_read (scanner : Scanner) (kind : Token.Kind) (word : String) :
    (scanner.read kind word).emitted =
      ⟨kind, word, ⟨scanner.column, scanner.column + word.length⟩⟩ :: scanner.emitted := rfl

@[simp] theorem extendsNumber_read (scanner : Scanner) (kind : Token.Kind) (word : String) :
    (scanner.read kind word).extendsNumber = (kind == .number) := rfl

theorem readNumber_of_not_extends (single : scanner.extendsNumber = false) (word : String) :
    scanner.readNumber word = scanner.read .number word := by
  rw [Scanner.readNumber, single]

theorem readNumber_of_extends {previous : Token} {older : List Token}
    (growing : scanner.extendsNumber = true) (emitted : scanner.emitted = previous :: older)
    (word : String) :
    scanner.readNumber word =
      { scanner with
        emitted := { previous with
          text := previous.text ++ word
          span := ⟨previous.span.start, scanner.column + word.length⟩ } :: older
        log := scanner.log.push (.joined word previous) }.advance word := by
  rw [Scanner.readNumber, growing, emitted]
  rfl

/-- A character that is no part of a number and not blank becomes a token of its own. -/
theorem HasRead.read (before : HasRead settings past scanner) (kept : settings.keeps c = true)
    (single : isNumeral c = false) (visible : Text.isBlank c = false) :
    HasRead settings (past ++ [c]) (scanner.read (.ofChar c) (String.singleton c)) := by
  have marks : settings.marks (past ++ [c]) = settings.marks past ++ [(c, past.length)] :=
    Settings.marks_append_kept settings past (by simpa using kept)
  have tokens : Token.ofMarks (settings.marks (past ++ [c])) =
      Token.ofMarks (settings.marks past) ++
        [⟨.ofChar c, String.singleton c, ⟨past.length, past.length + 1⟩⟩] := by
    rw [marks, Token.ofMarks_append (by simp [single]), Token.ofMarks_singleton visible]
  refine ⟨before.strict, ?_, ?_, ?_⟩
  · simp [before.column]
  · rw [tokens]
    simp [before.emitted, before.column]
  · rw [marks]
    simp [Token.Kind.ofChar_ne_number single, single]

/-- A run of digits and points goes on with the last token exactly if that may still grow. -/
theorem HasRead.readNumber (before : HasRead settings past scanner) (word : String)
    (nonempty : word ≠ "") (numeral : ∀ digit ∈ word.toList, isNumeral digit = true) :
    HasRead settings (past ++ word.toList) (scanner.readNumber word) := by
  have marks := Settings.marks_append_kept settings past fun digit member =>
    Settings.keeps_of_isNumeral (numeral digit member)
  have all : ∀ mark ∈ word.toList.zipIdx past.length, isNumeral mark.1 = true :=
    fun mark member => numeral mark.1 (List.fst_mem_of_mem_zipIdx member)
  have text : Token.textOf (word.toList.zipIdx past.length) = word := by
    rw [Token.textOf, List.zipIdx_map_fst, String.ofList_toList]
  obtain ⟨mark, run, split⟩ : ∃ mark run, word.toList.zipIdx past.length = mark :: run :=
    List.exists_cons_of_ne_nil (by simpa using nonempty)
  have stop := Token.snd_getLastD_zipIdx split
  rw [String.length_toList] at stop
  have start : mark.2 = past.length := by
    obtain ⟨c, others, -, same, -⟩ := List.zipIdx_eq_cons_iff.mp split
    exact congrArg Prod.snd same
  rw [split] at marks all text
  have grows : ∃ last ∈ (settings.marks past ++ mark :: run).getLast?,
      isNumeral last.1 = true := by
    refine ⟨run.getLastD mark, ?_, all _ List.getLastD_mem_cons⟩
    simp [List.getLast?_append, List.getLast?_cons]
  cases growing : scanner.extendsNumber with
  | true =>
    obtain ⟨last, ended, digit⟩ := before.extends_iff.mp growing
    obtain ⟨older, previous, old, -, new⟩ := Token.ofMarks_join ended digit all
    have emitted : scanner.emitted = previous :: older.reverse := by
      rw [before.emitted, old, List.reverse_append]
      rfl
    rw [text, List.getLastD_cons, stop] at new
    rw [readNumber_of_extends growing emitted]
    refine ⟨before.strict, ?_, ?_, ?_⟩
    · simp [advance, before.column, String.length_toList]
    · rw [marks, new]
      simp [advance, before.column]
    · rw [marks]
      exact iff_of_true growing grows
  | false =>
    have apart : ∀ last ∈ (settings.marks past).getLast?, ∀ next ∈ (mark :: run).head?,
        (isNumeral last.1 && isNumeral next.1) = false := by
      intro last ended next _
      cases digit : isNumeral last.1 with
      | false => rfl
      | true =>
        rw [before.extends_iff.mpr ⟨last, ended, digit⟩] at growing
        cases growing
    rw [readNumber_of_not_extends growing]
    refine ⟨before.strict, ?_, ?_, ?_⟩
    · simp [before.column, String.length_toList]
    · rw [marks, Token.ofMarks_append apart, Token.ofMarks_run all, text, stop]
      simp [before.emitted, before.column, start]
    · rw [marks]
      exact iff_of_true rfl grows

/-- Blank characters are no tokens, and no number goes on after them. -/
theorem HasRead.skipBlank (before : HasRead settings past scanner) (word : String)
    (nonempty : word ≠ "") (blank : ∀ other ∈ word.toList, Text.isBlank other = true) :
    HasRead settings (past ++ word.toList) (scanner.skipBlank word) := by
  have marks := Settings.marks_append_kept settings past fun other member =>
    Settings.keeps_of_isBlank (blank other member)
  have all : ∀ mark ∈ word.toList.zipIdx past.length, Text.isBlank mark.1 = true :=
    fun mark member => blank mark.1 (List.fst_mem_of_mem_zipIdx member)
  have some : word.toList.zipIdx past.length ≠ [] := by simpa using nonempty
  have apart : ∀ last ∈ (settings.marks past).getLast?,
      ∀ next ∈ (word.toList.zipIdx past.length).head?,
        (isNumeral last.1 && isNumeral next.1) = false := by
    intro last _ next head
    rw [isNumeral_of_isBlank (all next (List.mem_of_mem_head? head)), Bool.and_false]
  refine ⟨before.strict, ?_, ?_, ?_⟩
  · simp [Scanner.skipBlank, advance, before.column, String.length_toList]
  · rw [marks, Token.ofMarks_append apart, Token.ofMarks_blank all, List.append_nil]
    exact before.emitted
  · rw [marks, List.getLast?_append_of_ne_nil _ some]
    refine iff_of_false Bool.false_ne_true ?_
    rintro ⟨last, ended, digit⟩
    rw [isNumeral_of_isBlank (all last (List.mem_of_mem_getLast? ended))] at digit
    cases digit

/-- A character that is dropped changes nothing but the place. -/
theorem HasRead.drop (before : HasRead settings past scanner) (dropped : settings.keeps c = false) :
    HasRead settings (past ++ [c])
      ({ scanner with log := scanner.log.push (.skipped c scanner.column) }.advance
        (String.singleton c)) := by
  refine ⟨before.strict, ?_, ?_, ?_⟩
  · simp [advance, before.column]
  · rw [Settings.marks_append_dropped past dropped]
    exact before.emitted
  · rw [Settings.marks_append_dropped past dropped]
    exact before.extends_iff

/-- Under strict settings an unrecognised character is a token, and otherwise it is dropped. -/
theorem HasRead.readUnrecognised (before : HasRead settings past scanner)
    (unknown : isUnrecognised c = true) :
    HasRead settings (past ++ [c]) (scanner.readUnrecognised c) := by
  rw [Scanner.readUnrecognised]
  cases kept : scanner.strict with
  | true =>
    rw [before.strict] at kept
    obtain ⟨single, visible, -⟩ := isUnrecognised_iff.mp unknown
    have read := before.read (by simp [Settings.keeps, kept]) single visible
    rw [Token.Kind.ofChar_unrecognised unknown] at read
    exact read
  | false =>
    have lenient := before.strict.symm.trans kept
    have dropped := before.drop (c := c) (by simp [Settings.keeps, lenient, unknown])
    rw [kept] at dropped
    exact dropped

theorem HasRead.reads {piece : List Char} {next : Scanner} (before : HasRead settings past scanner)
    (reads : scanner.Reads piece next) : HasRead settings (past ++ piece) next := by
  cases reads with
  | number word nonempty numeral => exact before.readNumber word nonempty numeral
  | blank word nonempty blank => exact before.skipBlank word nonempty blank
  | symbol c kind symbol =>
    obtain ⟨single, visible⟩ := single_of_ofSymbol? symbol
    have read := before.read (Settings.keeps_of_ofSymbol? symbol) single visible
    rwa [Token.Kind.ofChar_symbol symbol] at read
  | unrecognised c unknown => exact before.readUnrecognised unknown

/-- A run reads the whole text. -/
theorem HasRead.run (before : HasRead settings past scanner) (text : List Char) :
    HasRead settings (past ++ text) (scanner.run text) :=
  run_keeps (motive := HasRead settings) HasRead.reads before text

end Scanner

/-- A text is scanned into the tokens of its marks, and a mark for its end. -/
theorem Token.scan_eq (settings : Settings) (source : String) :
    scan settings source = ofMarks (settings.marks source.toList) ++ [finish source.length] := by
  have read := (Scanner.hasRead_start settings).run source.toList
  rw [List.nil_append] at read
  rw [scan, Scanner.scan, Scanner.finish, Scanner.tokens_push, Scanner.tokens, read.emitted,
    List.reverse_reverse, read.column, String.length_toList]

end Calculator

import Calculator.Proofs.Command.Answer
import Calculator.Proofs.Text.Splitting

/-!
# The prompt as a series of single runs

The prompt answers each line as a run of the command would answer it as its only expression. What
it writes is a greeting, the replies to the entries before the one that says `exit`, and a farewell
if there is such an entry (`run_prompt_eq`). An entry over which such a run breaks down is the last
one that is answered.
-/

namespace Calculator.Command

namespace Output

variable (first second third : Output)

theorem append_assoc : first ++ second ++ third = first ++ (second ++ third) := by
  change Output.mk _ _ = Output.mk _ _
  rw [out_append, err_append, String.append_assoc, String.append_assoc]
  rfl

@[simp] theorem empty_append : {} ++ first = first := by
  change Output.mk _ _ = Output.mk _ _
  rw [String.empty_append, String.empty_append]

@[simp] theorem append_empty : first ++ {} = first := by
  change Output.mk _ _ = Output.mk _ _
  rw [String.append_empty, String.append_empty]

end Output

namespace Prompt

/-! ## Lines of the input -/

theorem splitLines_of_plain {line : List UInt8} (plain : 10 ∉ line) (some : line ≠ []) :
    splitLines line = [line] := by
  induction line with
  | nil => exact absurd rfl some
  | cons byte line ih =>
    obtain ⟨inside, outside⟩ := List.ne_and_not_mem_of_not_mem_cons plain
    rw [splitLines, if_neg inside.symm]
    cases line with
    | nil => rfl
    | cons next line => rw [ih outside (List.cons_ne_nil next line)]

theorem splitLines_append_feed {line : List UInt8} (plain : 10 ∉ line) (rest : List UInt8) :
    splitLines (line ++ 10 :: rest) = line :: splitLines rest := by
  induction line with
  | nil => rfl
  | cons byte line ih =>
    obtain ⟨inside, outside⟩ := List.ne_and_not_mem_of_not_mem_cons plain
    rw [List.cons_append, splitLines, if_neg inside.symm, ih outside]

theorem splitLines_eq_lines (input : List UInt8) : splitLines input = Text.lines 10 input := by
  induction input using Text.lineInduction (10 : UInt8) with
  | last line plain =>
    cases line with
    | nil => rfl
    | cons byte line =>
      have some := List.cons_ne_nil byte line
      rw [splitLines_of_plain plain some, Text.lines_of_plain plain some]
  | more line rest plain ih =>
    rw [splitLines_append_feed plain, Text.lines_append_feed plain, ih]

theorem mk_toArray (bytes : List UInt8) : ByteArray.mk bytes.toArray = bytes.toByteArray :=
  ByteArray.ext List.data_toByteArray.symm

/-- The bytes of a text are decoded to it. -/
theorem decode_bytes (line : List Char) : decode (Text.bytes line) = some (String.ofList line) := by
  have encoded : ByteArray.mk (Text.bytes line).toArray = (String.ofList line).toByteArray := by
    rw [mk_toArray, String.toByteArray_ofList]
    rfl
  rw [decode, encoded, String.fromUTF8?, dif_pos (String.ofList line).isValidUTF8]
  rfl

theorem decode_eq_none {line : List UInt8} (invalid : ∀ text, Text.bytes text ≠ line) :
    decode line = none := by
  refine dif_neg fun valid => ?_
  obtain ⟨text, same⟩ := valid
  have lists := congrArg (fun array => array.data.toList) same
  rw [mk_toArray, List.utf8Encode, List.toList_data_toByteArray,
    List.toList_data_toByteArray] at lists
  exact invalid text lists.symm

/-! ## Entries and replies -/

/-- What a line says, apart from the blanks around it. -/
def entry (line : List Char) : String := String.ofList (Text.trim line)

/-- Whether an entry asks to leave the prompt. -/
def leaves (entry : String) : Bool := entry.toLower == "exit"

/-- The reply to an entry: the answer to it, unless it is empty, and an invitation. -/
def reply (answers : String → Output) (entry : String) : Output :=
  (if entry = "" then .line "Please enter an expression." else answers entry) ++ invitation

def replies (answers : String → Output) : List String → Output
  | [] => {}
  | entry :: later => reply answers entry ++ replies answers later

def farewell : Output := .line "Goodbye!"

theorem isExit_trim (line : List Char) : isExit (Text.trim line) = leaves (entry line) := by
  have lowered : (entry line).toLower.toList = (Text.trim line).map Char.toLower :=
    String.toList_map.trans (congrArg (List.map Char.toLower) String.toList_ofList)
  rw [Bool.eq_iff_iff, isExit, leaves, beq_iff_eq, beq_iff_eq, ← String.toList_inj, lowered]
  exact Iff.rfl

theorem entry_eq_empty_iff {line : List Char} : entry line = "" ↔ Text.trim line = [] := by
  rw [entry, ← String.toList_inj, String.toList_ofList, String.toList_empty]

section Converse

variable (host : Host) (options : Options)

/-- The answer to the empty entry would not break down. -/
theorem ending_empty : (answer host options "").ending ≠ .breakdown := by
  intro breaks
  obtain ⟨fault, -, wide⟩ := ending_eq_breakdown_iff.mp breaks
  rw [Text.Line.locate_of_empty String.toList_empty] at wide
  exact absurd wide (by decide)

/-- Whether the prompt goes on after a line. -/
def Stays (line : List Char) : Prop :=
  leaves (entry line) = false ∧ (answer host options (entry line)).ending ≠ .breakdown

variable {host options} {line : List Char}

theorem respond_of_leaves (leave : leaves (entry line) = true) :
    respond host options (some (String.ofList line)) = .stop 0 farewell := by
  rw [respond, String.toList_ofList]
  exact if_pos ((isExit_trim line).trans leave)

theorem respond_of_remains (remains : leaves (entry line) = false) :
    respond host options (some (String.ofList line)) =
      if entry line = "" then .proceed (.line "Please enter an expression." ++ invitation)
      else react (answer host options (entry line)) := by
  rw [respond, String.toList_ofList]
  simp only [isExit_trim, remains, entry_eq_empty_iff]
  rfl

theorem respond_of_stays (stays : Stays host options line) :
    respond host options (some (String.ofList line)) =
      .proceed (reply (fun entry => (answer host options entry).output) (entry line)) := by
  rw [respond_of_remains stays.1, reply]
  by_cases empty : entry line = ""
  · rw [if_pos empty, if_pos empty]
  · rw [if_neg empty, if_neg empty, react]
    cases ending : (answer host options (entry line)).ending with
    | value | fault => rfl
    | breakdown => exact absurd ending stays.2

theorem respond_of_breaks (remains : leaves (entry line) = false)
    (breaks : (answer host options (entry line)).ending = .breakdown) :
    respond host options (some (String.ofList line)) =
      .stop 101 (answer host options (entry line)).output := by
  have some : entry line ≠ "" := fun empty => ending_empty host options (empty ▸ breaks)
  rw [respond_of_remains remains, if_neg some, react, breaks]
  rfl

/-- Lines after which the prompt goes on are replied to, one after the other. -/
theorem converse_append {before : List (List Char)}
    (stay : ∀ line ∈ before, Stays host options line) (rest : List (Option String)) :
    converse host options (before.map (fun line => some (String.ofList line)) ++ rest) =
      ⟨(converse host options rest).code,
        replies (fun entry => (answer host options entry).output) (before.map entry) ++
          (converse host options rest).output⟩ := by
  induction before with
  | nil => simp [replies]
  | cons line before ih =>
    have first := respond_of_stays (stay line List.mem_cons_self)
    simp only [List.map_cons, List.cons_append, converse, first, replies,
      ih fun line member => stay line (List.mem_cons_of_mem _ member), Output.append_assoc]

end Converse

theorem map_decode_bytes (texts : List (List Char)) :
    (texts.map Text.bytes).map decode = texts.map fun line => some (String.ofList line) := by
  rw [List.map_map]
  exact List.map_congr_left fun line _ => decode_bytes line

/-- Lines up to the first one that leaves the prompt, if there is one. -/
theorem exists_before (lines : List (List Char)) :
    ∃ before, (∀ line ∈ before, leaves (entry line) = false) ∧
      (lines.map entry).takeWhile (!leaves ·) = before.map entry ∧
      ((lines.map entry).any leaves = false ∧ lines = before ∨
        (lines.map entry).any leaves = true ∧
          ∃ line after, leaves (entry line) = true ∧ lines = before ++ line :: after) := by
  induction lines with
  | nil => exact ⟨[], fun _ member => absurd member List.not_mem_nil, rfl, .inl ⟨rfl, rfl⟩⟩
  | cons line lines ih =>
    cases leave : leaves (entry line) with
    | true =>
      refine ⟨[], fun _ member => absurd member List.not_mem_nil, ?_, .inr ⟨?_, ?_⟩⟩
      · simp [leave]
      · simp [leave]
      · exact ⟨line, lines, leave, rfl⟩
    | false =>
      obtain ⟨before, stay, kept, rest⟩ := ih
      refine ⟨line :: before, List.forall_mem_cons.mpr ⟨leave, stay⟩, ?_, ?_⟩
      · simp [leave, kept]
      · rw [List.map_cons, List.any_cons, leave, Bool.false_or]
        rcases rest with ⟨none, rfl⟩ | ⟨some, last, after, out, rfl⟩
        · exact .inl ⟨none, rfl⟩
        · exact .inr ⟨some, last, after, out, rfl⟩

section Runs

/-- What the prompt has written when it has replied to some entries. -/
def transcript (host : Host) (options : Options) (entries : List String) : Output :=
  greeting ++ replies (fun entry => (answer host options entry).output) entries

variable {host : Host} {options : Options} {input : ByteArray} {before : List (List Char)}
  {line : List Char} {bytes : List UInt8} {rest after : List (List UInt8)}

/-- The prompt replies to lines after which it goes on. -/
theorem run_eq_converse (stay : ∀ line ∈ before, Stays host options line)
    (read : Text.lines 10 input.toList = before.map Text.bytes ++ rest) :
    run host options input =
      ⟨(converse host options (rest.map decode)).code,
        transcript host options (before.map entry) ++
          (converse host options (rest.map decode)).output⟩ := by
  simp only [run, transcript, splitLines_eq_lines, read, List.map_append, map_decode_bytes,
    converse_append stay, Output.append_assoc]

/-- The prompt replies to the lines before one that leaves it, and to none after that. -/
theorem run_of_leaves (stay : ∀ line ∈ before, Stays host options line)
    (leave : leaves (entry line) = true)
    (read : Text.lines 10 input.toList = before.map Text.bytes ++ Text.bytes line :: after) :
    run host options input =
      ⟨0, transcript host options (before.map entry) ++ farewell⟩ := by
  rw [run_eq_converse stay read, List.map_cons, decode_bytes, converse, respond_of_leaves leave]

/-- The prompt replies to the lines before one whose answer breaks down, and ends with that. -/
theorem run_of_breaks (stay : ∀ line ∈ before, Stays host options line)
    (remains : leaves (entry line) = false)
    (breaks : (answer host options (entry line)).ending = .breakdown)
    (read : Text.lines 10 input.toList = before.map Text.bytes ++ Text.bytes line :: after) :
    run host options input =
      ⟨101, transcript host options (before.map entry) ++
        (answer host options (entry line)).output⟩ := by
  rw [run_eq_converse stay read, List.map_cons, decode_bytes, converse,
    respond_of_breaks remains breaks]

/-- The prompt replies to the lines before one that is not a text, and breaks off there. -/
theorem run_of_invalid (stay : ∀ line ∈ before, Stays host options line)
    (invalid : ∀ text, Text.bytes text ≠ bytes)
    (read : Text.lines 10 input.toList = before.map Text.bytes ++ bytes :: after) :
    run host options input =
      ⟨1, transcript host options (before.map entry) ++ { err := host.invalidLine }⟩ := by
  rw [run_eq_converse stay read, List.map_cons, decode_eq_none invalid]
  rfl

/-- The prompt replies to all lines, if it goes on after each. -/
theorem run_of_stays (stay : ∀ line ∈ before, Stays host options line)
    (read : Text.lines 10 input.toList = before.map Text.bytes) :
    run host options input = ⟨0, transcript host options (before.map entry)⟩ := by
  rw [run_eq_converse stay (read.trans (List.append_nil _).symm)]
  exact congrArg (Outcome.mk 0) (Output.append_empty _)

section Texts

variable {text : String}

theorem lines_toUTF8 (text : String) :
    Text.lines 10 text.toUTF8.toList = (Text.lines '\n' text.toList).map Text.bytes := by
  rw [Text.toList_toUTF8, Text.lines_bytes]

/-- The prompt replies to the entries of a text before the first one that leaves it. -/
theorem run_toUTF8_of_stays
    (whole : ∀ heard ∈ ((Text.lines '\n' text.toList).map entry).takeWhile (!leaves ·),
      (answer host options heard).ending ≠ .breakdown) :
    let entries := (Text.lines '\n' text.toList).map entry
    run host options text.toUTF8 =
      ⟨0, transcript host options (entries.takeWhile (!leaves ·)) ++
        if entries.any leaves then farewell else {}⟩ := by
  intro entries
  obtain ⟨before, remain, kept, ends⟩ := exists_before (Text.lines '\n' text.toList)
  have stay : ∀ line ∈ before, Stays host options line := fun line member =>
    ⟨remain line member, whole _ (kept ▸ List.mem_map_of_mem member)⟩
  have read := lines_toUTF8 text
  rcases ends with ⟨none, all⟩ | ⟨some, line, after, leave, split⟩
  · rw [all] at read
    rw [run_of_stays stay read, kept, none]
    exact congrArg (Outcome.mk 0) (Output.append_empty _).symm
  · rw [split, List.map_append] at read
    rw [run_of_leaves stay leave read, kept, some]
    rfl

/-- The prompt ends with the answer to the first entry that breaks down, if that comes before one
that leaves it. -/
theorem run_toUTF8_of_breaks {front later : List String} {last : String}
    (split : ((Text.lines '\n' text.toList).map entry).takeWhile (!leaves ·) =
      front ++ last :: later)
    (whole : ∀ entry ∈ front, (answer host options entry).ending ≠ .breakdown)
    (breaks : (answer host options last).ending = .breakdown) :
    run host options text.toUTF8 =
      ⟨101, transcript host options front ++ (answer host options last).output⟩ := by
  obtain ⟨lines, remain, kept, ends⟩ := exists_before (Text.lines '\n' text.toList)
  obtain ⟨before, others, rfl, rfl, tail⟩ := List.map_eq_append_iff.mp (kept.symm.trans split)
  obtain ⟨line, after, rfl, rfl, rfl⟩ := List.map_eq_cons_iff.mp tail
  have stay : ∀ text ∈ before, Stays host options text := fun text member =>
    ⟨remain text (List.mem_append_left _ member), whole _ (List.mem_map_of_mem member)⟩
  obtain ⟨rest, all⟩ : ∃ rest, Text.lines '\n' text.toList = before ++ line :: rest := by
    rcases ends with ⟨-, all⟩ | ⟨-, exit, later, -, all⟩
    · exact ⟨_, all⟩
    · exact ⟨_, all.trans (List.append_assoc ..)⟩
  have read := lines_toUTF8 text
  rw [all, List.map_append] at read
  exact run_of_breaks stay (remain line (by simp)) breaks read

end Texts

end Runs

end Prompt

/-- The prompt is a series of single runs under the same options. It greets, replies to each entry
with what such a run writes about it, or asks for an entry where a line has none, and says farewell
at the first entry `exit`, whatever comes after it. A line before that which is no text makes the
prompt break off with the exit code one, after what it has written up to there. So does, with
another exit code, an entry over which a single run breaks down, and it does so over a fault whose
column leaves no room for the tip of the pointer. -/
theorem run_prompt_eq {host : Host} {arguments : List String} {environment : Option String}
    {options : Options} {single : String → List String}
    (asked : host.read arguments environment = .ok options) (absent : options.expression = none)
    (singled : ∀ entry,
      host.read (single entry) environment = .ok { options with expression := some entry }) :
    let answers (entry : String) := run host (single entry) environment .empty
    let written (entries : List String) :=
      Prompt.greeting ++ Prompt.replies (fun entry => (answers entry).output) entries
    (∀ entry, (answers entry).code = 101 ↔ ∃ fault,
      calculate options.settings entry = .error fault ∧
        greatestWidth ≤ (Text.Line.locate entry fault.position).shownColumn) ∧
    (∀ text : String,
      let entries := (Text.lines '\n' text.toList).map Prompt.entry
      let heard := entries.takeWhile (!Prompt.leaves ·)
      let outcome := run host arguments environment text.toUTF8
      ((∀ entry ∈ heard, (answers entry).code ≠ 101) →
        outcome =
          ⟨0, written heard ++ if entries.any Prompt.leaves then Prompt.farewell else {}⟩) ∧
      ∀ before entry after, heard = before ++ entry :: after →
        (∀ other ∈ before, (answers other).code ≠ 101) → (answers entry).code = 101 →
        outcome = ⟨101, written before ++ (answers entry).output⟩) ∧
    ∀ (input : ByteArray) (before : List (List Char)) (line : List UInt8)
      (after : List (List UInt8)),
      Text.lines 10 input.toList = before.map Text.bytes ++ line :: after →
      (∀ text ∈ before, Prompt.leaves (Prompt.entry text) = false ∧
        (answers (Prompt.entry text)).code ≠ 101) →
      let outcome := run host arguments environment input
      let written := written (before.map Prompt.entry)
      (∀ text, Text.bytes text = line → Prompt.leaves (Prompt.entry text) = true →
        outcome = ⟨0, written ++ Prompt.farewell⟩) ∧
      (∀ text, Text.bytes text = line → Prompt.leaves (Prompt.entry text) = false →
        (answers (Prompt.entry text)).code = 101 →
        outcome = ⟨101, written ++ (answers (Prompt.entry text)).output⟩) ∧
      ((∀ text, Text.bytes text ≠ line) →
        outcome = ⟨1, written ++ { err := host.invalidLine }⟩) := by
  intro answers written
  have same entry : answers entry = answerOnce host options entry :=
    run_of_expression (singled entry) rfl .empty
  have breaks entry : (answers entry).code = 101 ↔
      (answer host options entry).ending = .breakdown := by
    rw [same]
    exact Ending.code_eq_iff
  have output entry : (answers entry).output = (answer host options entry).output := by
    rw [same]
    rfl
  have started := run_of_prompt asked absent
  simp only [written, output, breaks, ne_eq]
  refine ⟨fun entry => ending_eq_breakdown_iff, fun text => ⟨fun whole => ?_, ?_⟩, ?_⟩
  · exact (started _).trans (Prompt.run_toUTF8_of_stays whole)
  · intro before entry after split whole ends
    exact (started _).trans (Prompt.run_toUTF8_of_breaks split whole ends)
  · intro input before line after read stay
    refine ⟨?_, ?_, fun invalid => ?_⟩
    · rintro text rfl leave
      exact (started input).trans (Prompt.run_of_leaves stay leave read)
    · rintro text rfl remains ends
      exact (started input).trans (Prompt.run_of_breaks stay remains ends read)
    · exact (started input).trans (Prompt.run_of_invalid stay invalid read)

/-- A quotient by zero does not stop the prompt, nor does a line without an entry; a line that says
`exit` does, and no harm is done by bytes after it that are no text. In place of that line they
break the prompt off. -/
theorem run_prompt_quotient :
    let single (entry : String) := ["--ast", "--", entry]
    let answers (entry : String) := run .sample (single entry) none .empty
    let text := "1/0\r\n\n"
    let lines : List (List Char) := ["1/0\r".toList, []]
    let input : ByteArray := ⟨#[49, 47, 48, 13, 10, 10, 32, 69, 120, 105, 116, 10, 255]⟩
    let broken : ByteArray := ⟨#[49, 47, 48, 13, 10, 10, 255, 10, 50]⟩
    let output : Output :=
      ⟨"Enter Your Mathematical Expression (or 'exit' to quit):\n" ++
        "Tree: (/ 1 0)\n\nEnter another expression (or 'exit' to quit):\n" ++
        "Please enter an expression.\n\nEnter another expression (or 'exit' to quit):\n",
        "Error: Division by zero at position 1\n  |\n1 | 1/0\n  | -^\n" ++
        "Hint: Division by zero is not allowed.\n"⟩
    Host.sample.read ["--ast"] none = .ok { tree := true } ∧
      (∀ entry, Host.sample.read (single entry) none =
        .ok { tree := true, expression := some entry }) ∧
      (∀ entry ∈ ((Text.lines '\n' text.toList).map Prompt.entry).takeWhile (!Prompt.leaves ·),
        (answers entry).code ≠ 101) ∧
      Text.lines 10 input.toList = lines.map Text.bytes ++ Text.bytes " Exit".toList :: [[255]] ∧
      Text.lines 10 broken.toList = lines.map Text.bytes ++ [255] :: [[50]] ∧
      (∀ line ∈ lines, Prompt.leaves (Prompt.entry line) = false ∧
        (answers (Prompt.entry line)).code ≠ 101) ∧
      Prompt.leaves (Prompt.entry " Exit".toList) = true ∧
      (∀ text, Text.bytes text ≠ [255]) ∧
      run .sample ["--ast"] none text.toUTF8 = ⟨0, output⟩ ∧
      run .sample ["--ast"] none input = ⟨0, output ++ Prompt.farewell⟩ ∧
      run .sample ["--ast"] none broken =
        ⟨1, output ++ { err := "Error: stream did not contain valid UTF-8\n" }⟩ := by
  intro single answers text lines input broken output
  have asked : Host.sample.read ["--ast"] none = .ok { tree := true } := rfl
  have singled entry : Host.sample.read (single entry) none =
      .ok { tree := true, expression := some entry } := rfl
  obtain ⟨-, texts, inputs⟩ := run_prompt_eq asked rfl singled
  have whole : ∀ entry ∈ ((Text.lines '\n' text.toList).map Prompt.entry).takeWhile
      (!Prompt.leaves ·), (answers entry).code ≠ 101 := by decide +kernel
  have read : Text.lines 10 input.toList =
      lines.map Text.bytes ++ Text.bytes " Exit".toList :: [[255]] := by decide +kernel
  have misread : Text.lines 10 broken.toList = lines.map Text.bytes ++ [255] :: [[50]] := by
    decide +kernel
  have stay : ∀ line ∈ lines, Prompt.leaves (Prompt.entry line) = false ∧
      (answers (Prompt.entry line)).code ≠ 101 := by decide +kernel
  have leave : Prompt.leaves (Prompt.entry " Exit".toList) = true := by decide +kernel
  have invalid text : Text.bytes text ≠ [255] := by
    intro same
    have decoded := Prompt.decode_bytes text
    rw [same] at decoded
    have none : Prompt.decode [255] = none := by decide +kernel
    rw [none] at decoded
    cases decoded
  refine ⟨asked, singled, whole, read, misread, stay, leave, invalid, ?_, ?_, ?_⟩
  · exact ((texts text).1 whole).trans (by decide +kernel)
  · exact ((inputs input lines _ _ read stay).1 _ rfl leave).trans (by decide +kernel)
  · exact ((inputs broken lines _ _ misread stay).2.2 invalid).trans (by decide +kernel)

theorem Prompt.entry_spread (width : Nat) :
    entry (Text.spread width).toList = Text.spread width := by
  rw [entry, Text.trim_spread, String.ofList_toList]

theorem Prompt.leaves_spread (width : Nat) :
    leaves (entry (Text.spread width).toList) = false := by
  rw [← isExit_trim, Text.trim_spread, Text.toList_spread]
  rfl

/-- It is not so that the prompt always comes to its end with the exit code zero. -/
theorem not_code_zero_of_prompt : ¬ ∀ (host : Host) (arguments : List String)
    (environment : Option String) (options : Options) (text : String),
    host.read arguments environment = .ok options → options.expression = none →
    (run host arguments environment text.toUTF8).code = 0 := by
  intro codes
  obtain ⟨width, wide⟩ : ∃ width, greatestWidth ≤ width + 2 :=
    ⟨greatestWidth, Nat.le_add_right _ _⟩
  have code := codes .sample [] none {} (Text.spread width) rfl rfl
  have breaks : (answer .sample {} (Prompt.entry (Text.spread width).toList)).ending =
      .breakdown := by
    rw [Prompt.entry_spread]
    exact ending_spread rfl wide
  have read : Text.lines 10 (Text.spread width).toUTF8.toList =
      List.map Text.bytes [] ++ Text.bytes (Text.spread width).toList :: [] := by
    rw [Prompt.lines_toUTF8, Text.lines_of_plain (Text.feed_notMem_spread width)
      (by simp [Text.toList_spread])]
    rfl
  have stay : ∀ line ∈ [], Prompt.Stays .sample {} line := fun _ member => by cases member
  rw [run_of_prompt rfl rfl,
    Prompt.run_of_breaks stay (Prompt.leaves_spread width) breaks read] at code
  cases code

end Calculator.Command

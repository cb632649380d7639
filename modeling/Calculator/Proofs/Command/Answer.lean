import Calculator.Command.Run
import Calculator.Proofs.Calculation.Report
import Calculator.Proofs.Decimal.Layout
import Calculator.Proofs.Text.Splitting

/-!
# Answers and calculations

A run of the command that is given an expression writes lines that its flags ask for, and after them
what the calculation of the expression comes to: its value, or a report of the fault in it with a
hint (`run_of_calculate`). The lines that flags ask for make no difference to that. A fault too far
to the right has no report, and the command breaks down over it (`not_code_one_of_fault`).
-/

namespace Calculator

/-! ## Texts in one line -/

theorem Text.of_mem_intercalate {separator : String} {texts : List String} {c : Char}
    (member : c ∈ (separator.intercalate texts).toList) :
    c ∈ separator.toList ∨ ∃ text ∈ texts, c ∈ text.toList := by
  induction texts with
  | nil => cases member
  | cons text texts ih =>
    cases texts with
    | nil =>
      rw [String.intercalate_singleton] at member
      exact .inr ⟨text, List.mem_cons_self, member⟩
    | cons next texts =>
      rw [String.intercalate_cons_cons, String.toList_append, String.toList_append,
        List.mem_append, List.mem_append] at member
      rcases member with (first | separates) | later
      · exact .inr ⟨text, List.mem_cons_self, first⟩
      · exact .inl separates
      · exact (ih later).imp id fun ⟨other, there, inside⟩ =>
          ⟨other, List.mem_cons_of_mem _ there, inside⟩

theorem Token.feed_notMem_display {token : Token} (plain : '\n' ∉ token.text.toList) :
    '\n' ∉ token.display.toList := by
  have name : '\n' ∉ token.kind.name.toList := by
    cases token.kind <;> decide
  unfold display
  split
  · simp [name, plain]
  · simp [name, plain]
  · exact name

theorem Token.feed_notMem_listing (settings : Settings) (source : String) :
    '\n' ∉ (listing (scan settings source)).toList := by
  unfold listing
  simp only [String.toList_append, List.mem_append, not_or]
  refine ⟨⟨by decide, fun member => ?_⟩, by decide⟩
  rcases Text.of_mem_intercalate member with separates | ⟨text, shown, inside⟩
  · revert separates
    decide
  · obtain ⟨token, kept, rfl⟩ := List.mem_map.mp shown
    obtain ⟨scanned, word⟩ := List.mem_filter.mp kept
    refine feed_notMem_display (fun feed => ?_) inside
    have visible := isBlank_of_mem_scan scanned (by simpa using word) '\n' feed
    revert visible
    decide

theorem Decimal.feed_notMem_text (layout : Layout) (value : Float) :
    '\n' ∉ (text layout value).toList := by
  intro member
  have mark := isFloatMark_of_mem_text member
  revert mark
  decide

theorem Expr.feed_notMem_display (tree : Expr) : '\n' ∉ tree.display.toList := by
  have symbol (operator : Operator) : '\n' ∉ operator.symbol.toList := by
    cases operator <;> decide
  induction tree with
  | literal value span => exact Decimal.feed_notMem_text .plain value
  | unaryNode sign operand span height ih =>
    simp [display, symbol, ih]
  | binaryNode sign left right span height first second =>
    simp [display, symbol, first, second]

namespace Command

/-! ## What is written -/

/-- Lines, each with its line feed. -/
def unlines (lines : List String) : String := String.join (lines.map (· ++ "\n"))

theorem unlines_nil : unlines [] = "" := rfl

theorem unlines_append (first second : List String) :
    unlines (first ++ second) = unlines first ++ unlines second := by
  rw [unlines, List.map_append, String.join_append]
  rfl

theorem unlines_singleton (line : String) : unlines [line] = line ++ "\n" := by
  rw [unlines, List.map_singleton, String.join_cons, String.join_nil, String.append_empty]

theorem lines_unlines {lines : List String} (plain : ∀ line ∈ lines, '\n' ∉ line.toList) :
    Text.lines '\n' (unlines lines).toList = lines.map String.toList := by
  have written : (unlines lines).toList = (lines.map String.toList).flatMap (· ++ ['\n']) := by
    rw [unlines, String.toList_join, List.flatMap_map, List.flatMap_map]
    exact List.flatMap_congr fun line _ => String.toList_append
  rw [written]
  refine Text.lines_flatMap fun line member => ?_
  obtain ⟨text, there, rfl⟩ := List.mem_map.mp member
  exact plain text there

/-- The lines that flags ask for: the tokens, and the tree if there is one. -/
def preface (options : Options) (source : String) : List String :=
  (if options.tokens then
    ["Tokens: " ++ Token.listing (Token.scan options.settings source)] else []) ++
  match (parse options.settings source).outcome with
  | .ok tree => if options.tree then ["Tree: " ++ tree.display] else []
  | .error _ => []

/-- The advice about a fault in a line of its own, if there is some. -/
def hint (cause : Fault.Cause) : String :=
  cause.advice?.elim "" fun advice => "Hint: " ++ advice ++ "\n"

section Answers

variable {options : Options} {source : String}

theorem of_mem_preface {line : String} (member : line ∈ preface options source) :
    line = "Tokens: " ++ Token.listing (Token.scan options.settings source) ∨
      ∃ tree : Expr, line = "Tree: " ++ tree.display := by
  rcases List.mem_append.mp member with tokens | tree
  · split at tokens
    · exact .inl (List.mem_singleton.mp tokens)
    · cases tokens
  · split at tree
    · split at tree
      · exact .inr ⟨_, List.mem_singleton.mp tree⟩
      · cases tree
    · cases tree

theorem feed_notMem_of_preface {line : String} (member : line ∈ preface options source) :
    '\n' ∉ line.toList := by
  rcases of_mem_preface member with rfl | ⟨tree, rfl⟩
  · rw [String.toList_append, List.mem_append, not_or]
    exact ⟨by decide, Token.feed_notMem_listing options.settings source⟩
  · rw [String.toList_append, List.mem_append, not_or]
    exact ⟨by decide, tree.feed_notMem_display⟩

/-- No line that a flag asks for looks like a result. -/
theorem not_result_of_preface {line : String} (member : line ∈ preface options source) :
    ¬ "Result: ".toList <+: line.toList := by
  rcases of_mem_preface member with rfl | ⟨tree, rfl⟩
  · rw [String.toList_append]
    exact fun start => absurd (List.cons_prefix_cons.mp start).1 (by decide)
  · rw [String.toList_append]
    exact fun start => absurd (List.cons_prefix_cons.mp start).1 (by decide)

theorem shown_eq (flag : Bool) (text : String) :
    shown flag text = ⟨unlines (if flag then [text] else []), ""⟩ := by
  cases flag with
  | true =>
    rw [if_pos rfl, unlines_singleton]
    rfl
  | false => rfl

theorem mk_append (out err more others : String) :
    Output.mk out err ++ Output.mk more others = ⟨out ++ more, err ++ others⟩ := rfl

theorem calculate_eq_bind (settings : Settings) (source : String) :
    calculate settings source = (parse settings source).outcome.bind Expr.value := by
  rw [calculate_eq, (yields_parse settings source).outcome]

/-- The lines that flags ask for come before what the calculation is concluded with. -/
theorem answer_eq (host : Host) (options : Options) (source : String) :
    answer host options source = (conclude host source (calculate options.settings source)).after
      ⟨unlines (preface options source), ""⟩ := by
  rw [calculate_eq_bind]
  unfold answer preface
  cases (parse options.settings source).outcome with
  | error fault => simp only [shown_eq, List.append_nil, Except.bind, conclude]
  | ok tree =>
    simp only [shown_eq, mk_append, unlines_append, Except.bind, String.append_empty]

section Conclusions

variable {host : Host} {fault : Fault} {report : String}

theorem complain_of_report (reported : fault.report? source = some report) :
    complain host source fault = ⟨.fault, ⟨"", report ++ hint fault.cause⟩⟩ := by
  simp only [complain, reported, hint]
  cases fault.cause.advice? <;> rfl

theorem complain_of_breakdown (unreported : fault.report? source = none) :
    complain host source fault = ⟨.breakdown, ⟨"", host.breakdown⟩⟩ := by
  simp only [complain, unreported]

/-- Nothing about a fault is written to the standard output. -/
theorem out_complain (host : Host) (source : String) (fault : Fault) :
    (complain host source fault).output.out = "" := by
  cases reported : fault.report? source with
  | none => rw [complain_of_breakdown reported]
  | some report => rw [complain_of_report reported]

theorem ending_complain_iff :
    (complain host source fault).ending = .breakdown ↔ fault.report? source = none := by
  cases reported : fault.report? source with
  | none => simp [complain_of_breakdown reported]
  | some report => simp [complain_of_report reported]

/-- An answer breaks down over a fault whose column leaves no room for the tip of the pointer, and
over nothing else. -/
theorem ending_eq_breakdown_iff : (answer host options source).ending = .breakdown ↔
    ∃ fault, calculate options.settings source = .error fault ∧
      greatestWidth ≤ (Text.Line.locate source fault.position).shownColumn := by
  rw [answer_eq, Answer.after]
  cases calculate options.settings source with
  | ok value => simp [conclude]
  | error fault => simp [conclude, ending_complain_iff, Fault.report?_eq_none_iff]

theorem answerOnce_of_value {value : Float}
    (calculated : calculate options.settings source = .ok value) :
    answerOnce host options source =
      ⟨0, unlines (preface options source ++ ["Result: " ++ Decimal.pointed value]), ""⟩ := by
  rw [answerOnce, answer_eq, calculated, unlines_append, unlines_singleton]
  rfl

theorem answerOnce_of_report (failed : calculate options.settings source = .error fault)
    (reported : fault.report? source = some report) : answerOnce host options source =
      ⟨1, unlines (preface options source), report ++ hint fault.cause⟩ := by
  rw [answerOnce, answer_eq, failed, conclude, complain_of_report reported]
  simp only [Answer.after, mk_append, String.append_empty, String.empty_append]
  rfl

theorem answerOnce_of_breakdown (failed : calculate options.settings source = .error fault)
    (unreported : fault.report? source = none) : answerOnce host options source =
      ⟨101, unlines (preface options source), host.breakdown⟩ := by
  rw [answerOnce, answer_eq, failed, conclude, complain_of_breakdown unreported]
  simp only [Answer.after, mk_append, String.append_empty, String.empty_append]
  rfl

theorem out_answerOnce_of_error (failed : calculate options.settings source = .error fault) :
    (answerOnce host options source).output.out = unlines (preface options source) := by
  simp only [answerOnce, answer_eq, failed, conclude, Answer.after, Output.out_append, out_complain,
    String.append_empty]

end Conclusions

theorem lines_preface (options : Options) (source : String) :
    Text.lines '\n' (unlines (preface options source)).toList =
      (preface options source).map String.toList :=
  lines_unlines fun _ => feed_notMem_of_preface

theorem lines_preface_result (options : Options) (source : String) (value : Float) :
    Text.lines '\n' (unlines (preface options source ++
        ["Result: " ++ Decimal.pointed value])).toList =
      (preface options source ++ ["Result: " ++ Decimal.pointed value]).map String.toList := by
  refine lines_unlines fun line member => ?_
  rcases List.mem_append.mp member with before | result
  · exact feed_notMem_of_preface before
  · rw [List.mem_singleton.mp result, String.toList_append, List.mem_append, not_or]
    exact ⟨by decide, Decimal.feed_notMem_text .pointed value⟩

theorem preface_of_bare (bare : options.tokens = false ∧ options.tree = false) :
    preface options source = [] := by
  rw [preface, bare.1, bare.2]
  cases (parse options.settings source).outcome <;> rfl

/-- Flags add the lines that they ask for. -/
theorem answerOnce_eq_bare (host : Host) (options : Options) (source : String) :
    let bare := answerOnce host { options with tokens := false, tree := false } source
    answerOnce host options source =
      ⟨bare.code, unlines (preface options source) ++ bare.output.out, bare.output.err⟩ := by
  have none : preface { options with tokens := false, tree := false } source = [] :=
    preface_of_bare ⟨rfl, rfl⟩
  simp only [answerOnce, answer_eq, none, unlines_nil, Answer.after, Output.out_append,
    Output.err_append, String.empty_append]
  rfl

end Answers

theorem hint_eq_empty_iff {cause : Fault.Cause} : hint cause = "" ↔ cause = .emptyExpression := by
  rw [← Fault.Cause.advice?_eq_none_iff, hint]
  cases cause.advice? with
  | none => exact iff_of_true rfl rfl
  | some advice => simp

/-! ## Runs -/

section Runs

variable {host : Host} {arguments : List String} {environment : Option String} {options : Options}
  {source : String}

theorem run_of_expression (asked : host.read arguments environment = .ok options)
    (given : options.expression = some source) (input : ByteArray) :
    run host arguments environment input = answerOnce host options source := by
  simp only [run, plan, asked, given]

theorem run_of_prompt (asked : host.read arguments environment = .ok options)
    (absent : options.expression = none) (input : ByteArray) :
    run host arguments environment input = Prompt.run host options input := by
  simp only [run, plan, asked, absent]

/-- A run that is given an expression does what the library calculates: it leaves the exit code zero
and a last line with the value, or the exit code one and a report with a hint, which only an empty
expression goes without. A fault whose column leaves no room for the tip of the pointer makes it
break down with another exit code and without a report. Flags put lines before all that, and make no
other difference to a run without them. -/
theorem run_of_calculate (asked : host.read arguments environment = .ok options)
    (given : options.expression = some source) (input : ByteArray) :
    let shown := preface options source
    let outcome := run host arguments environment input
    let lines := Text.lines '\n' outcome.output.out.toList
    (∀ value, calculate options.settings source = .ok value →
      outcome = ⟨0, unlines (shown ++ ["Result: " ++ Decimal.pointed value]), ""⟩ ∧
      lines = (shown ++ ["Result: " ++ Decimal.pointed value]).map String.toList) ∧
    (∀ fault, calculate options.settings source = .error fault →
      let column := (Text.Line.locate source fault.position).shownColumn
      (column < greatestWidth → ∃ report, fault.report? source = some report ∧
        outcome = ⟨1, unlines shown, report ++ hint fault.cause⟩) ∧
      (greatestWidth ≤ column → fault.report? source = none ∧
        outcome = ⟨101, unlines shown, host.breakdown⟩) ∧
      (hint fault.cause = "" ↔ fault.cause = .emptyExpression) ∧
      lines = shown.map String.toList ∧ ∀ line ∈ lines, ¬ "Result: ".toList <+: line) ∧
    ∀ plain, host.read plain environment =
        .ok { options with tokens := false, tree := false } →
      let bare := run host plain environment input
      outcome = ⟨bare.code, unlines shown ++ bare.output.out, bare.output.err⟩ := by
  intro shown outcome lines
  have answered : outcome = answerOnce host options source := run_of_expression asked given input
  refine ⟨?_, ?_, ?_⟩
  · intro value calculated
    rw [answerOnce_of_value calculated] at answered
    refine ⟨answered, ?_⟩
    simp only [lines, answered]
    exact lines_preface_result options source value
  · intro fault failed column
    have written : lines = shown.map String.toList := by
      simp only [lines, answered, out_answerOnce_of_error failed]
      exact lines_preface options source
    refine ⟨fun narrow => ?_, fun wide => ?_, hint_eq_empty_iff, written, ?_⟩
    · obtain ⟨report, reported⟩ := Option.ne_none_iff_exists'.mp fun none =>
        Nat.not_le.mpr narrow (Fault.report?_eq_none_iff.mp none)
      exact ⟨report, reported, answered.trans (answerOnce_of_report failed reported)⟩
    · have unreported := Fault.report?_eq_none_iff.mpr wide
      exact ⟨unreported, answered.trans (answerOnce_of_breakdown failed unreported)⟩
    · rw [written, List.forall_mem_map]
      exact fun line member => not_result_of_preface member
  · intro plain requested bare
    have reduced : bare =
        answerOnce host { options with tokens := false, tree := false } source :=
      run_of_expression requested given input
    rw [answered, reduced]
    exact answerOnce_eq_bare host options source

end Runs

/-- A host that understands a few lists of arguments, and no others. -/
def Host.sample : Host where
  read
    | ["--tokens", "--ast", "--max-depth", "9", "--", source], none =>
      .ok ⟨true, true, false, 9, some source⟩
    | ["--max-depth", "9", "--", source], none => .ok { maxDepth := 9, expression := some source }
    | ["--ast", "--", source], none => .ok { tree := true, expression := some source }
    | ["--", source], none => .ok { expression := some source }
    | ["--ast"], none => .ok { tree := true }
    | [], none => .ok {}
    | _, _ => .error ⟨2, {}⟩
  invalidLine := "Error: stream did not contain valid UTF-8\n"
  breakdown := "Formatting argument out of range\n"

/-- A quotient by zero has a tree but no value, and a sum has both. -/
theorem run_of_calculate_quotient :
    let asking (source : String) := ["--tokens", "--ast", "--max-depth", "9", "--", source]
    let options (source : String) : Options := ⟨true, true, false, 9, some source⟩
    let quotient : Outcome :=
      ⟨1, "Tokens: [Number(1), Slash, Number(0)]\nTree: (/ 1 0)\n",
        "Error: Division by zero at position 1\n  |\n1 | 1/0\n  | -^\n" ++
        "Hint: Division by zero is not allowed.\n"⟩
    let sum : Outcome :=
      ⟨0, "Tokens: [Number(1), Plus, Number(2)]\nTree: (+ 1 2)\nResult: 3.0\n", ""⟩
    (∀ source, Host.sample.read (asking source) none = .ok (options source)) ∧
      Host.sample.read ["--max-depth", "9", "--", "1/0"] none =
        .ok { options "1/0" with tokens := false, tree := false } ∧
      calculate { maxDepth := 9 } "1/0" = .error ⟨.divisionByZero, 1⟩ ∧
      calculate { maxDepth := 9 } "1+2" = .ok 3 ∧
      run .sample (asking "1/0") none .empty = quotient ∧
      run .sample (asking "1+2") none .empty = sum ∧
      (run .sample ["--max-depth", "9", "--", "1/0"] none .empty).output.err =
        quotient.output.err := by
  intro asking options quotient sum
  have asked source : Host.sample.read (asking source) none = .ok (options source) := rfl
  have bare : Host.sample.read ["--max-depth", "9", "--", "1/0"] none =
      .ok { options "1/0" with tokens := false, tree := false } := rfl
  have failed : calculate { maxDepth := 9 } "1/0" = .error ⟨.divisionByZero, 1⟩ := by
    decide +kernel
  have calculated : calculate { maxDepth := 9 } "1+2" = .ok 3 := by decide +kernel
  obtain ⟨-, faults, others⟩ := run_of_calculate (asked "1/0") rfl .empty
  obtain ⟨values, -⟩ := run_of_calculate (asked "1+2") rfl .empty
  have narrow : (Text.Line.locate "1/0" 1).shownColumn < greatestWidth := by decide +kernel
  obtain ⟨report, reported, outcome⟩ := (faults _ failed).1 narrow
  have divided : run .sample (asking "1/0") none .empty = quotient := by
    have text : Fault.report? ⟨.divisionByZero, 1⟩ "1/0" =
        some "Error: Division by zero at position 1\n  |\n1 | 1/0\n  | -^\n" := by decide +kernel
    obtain rfl := Option.some.inj (text.symm.trans reported)
    exact outcome.trans (by decide +kernel)
  refine ⟨asked, bare, failed, calculated, divided, ?_, ?_⟩
  · exact (values _ calculated).1.trans (by decide +kernel)
  · rw [← divided]
    exact (congrArg (·.output.err) (others _ bare)).symm

theorem ending_spread {host : Host} {options : Options} {width : Nat}
    (usual : options.settings = {}) (wide : greatestWidth ≤ width + 2) :
    (answer host options (Text.spread width)).ending = .breakdown := by
  refine ending_eq_breakdown_iff.mpr ⟨⟨.invalidExpression none, width + 2⟩, ?_, ?_⟩
  · rw [usual]
    exact calculate_spread width
  · exact Nat.le_trans wide (Text.le_shownColumn_spread width)

/-- It is not so that every fault is reported with the exit code one. -/
theorem not_code_one_of_fault : ¬ ∀ (host : Host) (arguments : List String)
    (environment : Option String) (options : Options) (source : String) (input : ByteArray)
    (fault : Fault), host.read arguments environment = .ok options →
    options.expression = some source → calculate options.settings source = .error fault →
    (run host arguments environment input).code = 1 := by
  intro codes
  -- any width that is large enough will do, and a variable is not evaluated
  obtain ⟨width, wide⟩ : ∃ width, greatestWidth ≤ width + 2 :=
    ⟨greatestWidth, Nat.le_add_right _ _⟩
  let options : Options := { expression := some (Text.spread width) }
  have asked : Host.sample.read ["--", Text.spread width] none = .ok options := rfl
  have failed : calculate options.settings (Text.spread width) =
      .error ⟨.invalidExpression none, width + 2⟩ := calculate_spread width
  have code := codes .sample _ none options _ .empty _ asked rfl failed
  rw [run_of_expression asked rfl, answerOnce, ending_spread rfl wide] at code
  cases code

end Command

end Calculator

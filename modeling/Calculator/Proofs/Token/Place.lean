import Calculator.Proofs.Token.Scan

/-!
# Where a scanner stands

A scanner counts its place twice, in bytes and in characters. Both are the counts of the characters
behind it (`Scanner.StandsAfter`) as long as it moves by texts that come next, whatever else is done
with it. So the source can always be cut at the byte count, and what is cut off is what is still to
be read.

`Scanner.turn` is one turn of a loop that knows of the source only what it cuts off there. In a scan
it always finds a character to read, and moves on by one at least, so that the loop ends, and with
the same tokens as `Scanner.run`. On the way the scanner also knows, by a single flag, whether a
digit that comes next belongs to its last token (`Scanner.InOrder`).
-/

namespace Calculator.Scanner

/-! ## Bytes -/

theorem dropBytes?_cons (c : Char) (count : Nat) (text : List Char) :
    dropBytes? (c.utf8Size + count) (c :: text) = dropBytes? count text := by
  have positive := Char.utf8Size_pos c
  obtain ⟨before, size⟩ := Nat.exists_eq_add_one_of_ne_zero (Nat.ne_of_gt positive)
  have fits : c.utf8Size ≤ before + count + 1 := by omega
  rw [size, Nat.add_right_comm, dropBytes?, if_pos fits]
  congr 1
  omega

/-- A text can be cut between any two of its characters. -/
theorem dropBytes?_append (past rest : List Char) :
    dropBytes? (String.ofList past).utf8ByteSize (past ++ rest) = some rest := by
  induction past with
  | nil => rw [List.nil_append, String.ofList_nil, String.utf8ByteSize_empty, dropBytes?]
  | cons c past ih =>
    rw [String.ofList_cons, String.utf8ByteSize_append, String.utf8ByteSize_singleton,
      List.cons_append, dropBytes?_cons, ih]

/-! ## Places -/

section Places

variable {source : String} {past piece rest : List Char} {scanner next : Scanner}

/-- Whether a scanner has just these characters of a source behind it, by both of its counts. -/
structure StandsAfter (source : String) (past : List Char) (scanner : Scanner) : Prop where
  begins : past <+: source.toList
  offset : scanner.offset = (String.ofList past).utf8ByteSize
  column : scanner.column = past.length

theorem standsAfter_start (settings : Settings) (source : String) :
    StandsAfter source [] (start settings) :=
  ⟨List.nil_prefix, rfl, rfl⟩

/-- What the scanner cuts off is what is not behind it. -/
theorem StandsAfter.remainder?_eq (stands : StandsAfter source past scanner)
    (split : source.toList = past ++ rest) :
    scanner.remainder? source = some (String.ofList rest) := by
  rw [remainder?, stands.offset, split, dropBytes?_append]
  rfl

/-- The scanner is at the end exactly if it has the whole source behind it. -/
theorem StandsAfter.atEnd_iff (stands : StandsAfter source past scanner)
    (split : source.toList = past ++ rest) : scanner.atEnd source = true ↔ rest = [] := by
  have size : source.utf8ByteSize =
      (String.ofList past).utf8ByteSize + (String.ofList rest).utf8ByteSize := by
    rw [← String.utf8ByteSize_append, ← String.ofList_append, ← split, String.ofList_toList]
  rw [atEnd, stands.offset, decide_eq_true_iff, size]
  constructor
  · intro most
    have none : (String.ofList rest).utf8ByteSize = 0 := by omega
    rw [String.utf8ByteSize_eq_zero_iff] at none
    simpa using congrArg String.toList none
  · rintro rfl
    exact Nat.le_refl _

/-- Both counts go on by the same characters. -/
theorem StandsAfter.moves (stands : StandsAfter source past scanner)
    (begins : past ++ piece <+: source.toList)
    (offset : next.offset = scanner.offset + (String.ofList piece).utf8ByteSize)
    (column : next.column = scanner.column + piece.length) :
    StandsAfter source (past ++ piece) next := by
  refine ⟨begins, ?_, ?_⟩
  · rw [offset, stands.offset, String.ofList_append, String.utf8ByteSize_append]
  · rw [column, stands.column, List.length_append]

theorem StandsAfter.advance (stands : StandsAfter source past scanner) {text : String}
    (begins : past ++ text.toList <+: source.toList) :
    StandsAfter source (past ++ text.toList) (scanner.advance text) := by
  refine stands.moves begins ?_ ?_
  · rw [String.ofList_toList]
    rfl
  · rw [String.length_toList]
    rfl

theorem StandsAfter.push (stands : StandsAfter source past scanner) (token : Token) :
    StandsAfter source past (scanner.push token) :=
  ⟨stands.begins, stands.offset, stands.column⟩

end Places

/-! ## Reading -/

section Reading

variable {source : String} {past piece rest : List Char} {scanner next : Scanner}

/-- A step never reads nothing. -/
theorem Reads.ne_nil (reads : scanner.Reads piece next) : piece ≠ [] := by
  cases reads with
  | number word nonempty | blank word nonempty => simpa using nonempty
  | symbol | unrecognised => exact List.cons_ne_nil _ _

/-- A number is read by moving past it, whether or not it goes on with the last token. -/
theorem StandsAfter.readNumber (stands : StandsAfter source past scanner) {word : String}
    (begins : past ++ word.toList <+: source.toList) :
    StandsAfter source (past ++ word.toList) (scanner.readNumber word) := by
  obtain ⟨-, offset, column⟩ := stands.advance begins
  unfold Scanner.readNumber
  split <;> exact ⟨begins, offset, column⟩

theorem StandsAfter.readUnrecognised (stands : StandsAfter source past scanner) {c : Char}
    (begins : past ++ [c] <+: source.toList) :
    StandsAfter source (past ++ [c]) (scanner.readUnrecognised c) := by
  rw [← String.toList_singleton] at begins ⊢
  obtain ⟨-, offset, column⟩ := stands.advance begins
  unfold Scanner.readUnrecognised
  split <;> exact ⟨begins, offset, column⟩

/-- A step moves past what it reads. -/
theorem StandsAfter.reads (stands : StandsAfter source past scanner)
    (reads : scanner.Reads piece next) (begins : past ++ piece <+: source.toList) :
    StandsAfter source (past ++ piece) next := by
  cases reads with
  | number word => exact stands.readNumber begins
  | blank word =>
    obtain ⟨-, offset, column⟩ := stands.advance begins
    exact ⟨begins, offset, column⟩
  | symbol c kind =>
    rw [← String.toList_singleton] at begins ⊢
    exact (stands.push _).advance begins
  | unrecognised c => exact stands.readUnrecognised begins

/-- Whether the last token is a number with only unrecognised characters behind it. -/
def Grows (past : List Char) (scanner : Scanner) : Prop :=
  ∃ last ∈ scanner.tokens.getLast?, last.kind = .number ∧
    ∀ c ∈ past.drop last.span.stop, isUnrecognised c = true

/-- What holds of a scanner whenever it is about to read. -/
structure InOrder (source : String) (past : List Char) (scanner : Scanner) : Prop where
  stands : StandsAfter source past scanner
  extends_iff : scanner.extendsNumber = true ↔ scanner.Grows past
  stop_le : ∀ token ∈ scanner.emitted, token.span.stop ≤ past.length

theorem inOrder_start (settings : Settings) (source : String) :
    InOrder source [] (start settings) where
  stands := standsAfter_start settings source
  extends_iff := by simp [start, Grows, tokens]
  stop_le := by simp [start]

theorem InOrder.stop_le_append {token : Token} (before : InOrder source past scanner)
    (member : token ∈ scanner.emitted) (piece : List Char) :
    token.span.stop ≤ (past ++ piece).length :=
  Nat.le_trans (before.stop_le token member) (List.prefix_append past piece).length_le

theorem mem_emitted_of_getLast? {last : Token} (ended : last ∈ scanner.tokens.getLast?) :
    last ∈ scanner.emitted :=
  List.mem_reverse.mp (List.mem_of_getLast? ended)

/-- Right behind its last token a scanner is in order if the flag says whether that is a number. -/
theorem InOrder.of_last {last : Token} {older : List Token} (before : InOrder source past scanner)
    (stands : StandsAfter source (past ++ piece) next) (emitted : next.emitted = last :: older)
    (known : older ⊆ scanner.emitted) (stop : last.span.stop = (past ++ piece).length)
    (flag : next.extendsNumber = true ↔ last.kind = .number) :
    InOrder source (past ++ piece) next := by
  refine ⟨stands, flag.trans ?_, ?_⟩
  · simp [Grows, tokens, emitted, stop]
  · intro token member
    rw [emitted, List.mem_cons] at member
    rcases member with rfl | inside
    · exact Nat.le_of_eq stop
    · exact before.stop_le_append (known inside) piece

theorem InOrder.read (before : InOrder source past scanner) (kind : Token.Kind) {word : String}
    (begins : past ++ word.toList <+: source.toList) :
    InOrder source (past ++ word.toList) (scanner.read kind word) := by
  refine before.of_last ((before.stands.push _).advance begins) (emitted_read scanner kind word)
    (List.Subset.refl _) ?_ ?_
  · rw [before.stands.column, List.length_append, String.length_toList]
  · rw [extendsNumber_read, beq_iff_eq]

/-- A number ends where the scanner stands then, and may go on, whether it is a token of its own or
more of the last one. -/
theorem InOrder.readNumber (before : InOrder source past scanner) {word : String}
    (begins : past ++ word.toList <+: source.toList) :
    InOrder source (past ++ word.toList) (scanner.readNumber word) := by
  cases growing : scanner.extendsNumber with
  | false =>
    rw [readNumber_of_not_extends growing]
    exact before.read .number begins
  | true =>
    obtain ⟨last, ended, number, -⟩ := before.extends_iff.mp growing
    obtain ⟨older, emitted⟩ : ∃ older, scanner.emitted = last :: older := by
      rw [tokens, List.getLast?_reverse] at ended
      exact List.head?_eq_some_iff.mp ended
    have stands := before.stands.readNumber begins
    rw [readNumber_of_extends growing emitted] at stands ⊢
    refine before.of_last stands rfl ?_ ?_ (iff_of_true growing number)
    · rw [emitted]
      exact List.subset_cons_self last older
    · rw [before.stands.column, List.length_append, String.length_toList]

/-- A blank character stands behind the last token, so that this does not grow any more. -/
theorem InOrder.skipBlank (before : InOrder source past scanner) {word : String}
    (nonempty : word ≠ "") (blank : ∀ c ∈ word.toList, Text.isBlank c = true)
    (begins : past ++ word.toList <+: source.toList) :
    InOrder source (past ++ word.toList) (scanner.skipBlank word) := by
  obtain ⟨-, offset, column⟩ := before.stands.advance begins
  refine ⟨⟨begins, offset, column⟩, iff_of_false Bool.false_ne_true ?_, ?_⟩
  · rintro ⟨last, ended, -, unknown⟩
    obtain ⟨c, rest, first⟩ : ∃ c rest, word.toList = c :: rest :=
      List.exists_cons_of_ne_nil (by simpa using nonempty)
    have inside : c ∈ word.toList := by
      rw [first]
      exact List.mem_cons_self
    have member := mem_emitted_of_getLast? ended
    have behind : c ∈ (past ++ word.toList).drop last.span.stop := by
      rw [List.drop_append_of_le_length (before.stop_le last member)]
      exact List.mem_append_right _ inside
    obtain ⟨-, visible, -⟩ := isUnrecognised_iff.mp (unknown c behind)
    rw [blank c inside] at visible
    cases visible
  · intro token member
    exact before.stop_le_append member _

/-- What is dropped is unrecognised, and the last token grows if it did so before. -/
theorem InOrder.readUnrecognised (before : InOrder source past scanner) {c : Char}
    (unknown : isUnrecognised c = true) (begins : past ++ [c] <+: source.toList) :
    InOrder source (past ++ [c]) (scanner.readUnrecognised c) := by
  have stands := before.stands.readUnrecognised begins
  rw [Scanner.readUnrecognised] at stands ⊢
  split
  · rw [← String.toList_singleton] at begins ⊢
    exact before.read .unknown begins
  · rename_i lenient
    rw [if_neg lenient] at stands
    refine ⟨stands, before.extends_iff.trans ?_, ?_⟩
    -- the character joins those behind the last token, whichever that is
    · refine exists_congr fun last => and_congr_right fun ended => and_congr_right fun _ => ?_
      have member := mem_emitted_of_getLast? ended
      rw [List.drop_append_of_le_length (before.stop_le last member), List.forall_mem_append,
        List.forall_mem_singleton, and_iff_left unknown]
    · intro token member
      exact before.stop_le_append member _

/-- A step keeps the scanner in order. -/
theorem InOrder.reads (before : InOrder source past scanner) (reads : scanner.Reads piece next)
    (begins : past ++ piece <+: source.toList) : InOrder source (past ++ piece) next := by
  cases reads with
  | number word => exact before.readNumber begins
  | blank word nonempty blank => exact before.skipBlank nonempty blank begins
  | symbol c kind =>
    rw [← String.toList_singleton] at begins ⊢
    exact before.read kind begins
  | unrecognised c unknown => exact before.readUnrecognised unknown begins

end Reading

/-! ## The loop -/

/-- What a turn of the loop comes to. -/
inductive Turn where
  /-- Nothing is left to read. -/
  | finished
  /-- The source cannot be cut, because the place is not between two of its characters. -/
  | misplaced
  /-- Something is left, but no character to go by. -/
  | stuck
  | next (scanner : Scanner)

/-- One turn of the loop, which cuts the source at the byte count and reads what comes first. -/
def turn (source : String) (scanner : Scanner) : Turn :=
  if scanner.atEnd source then .finished
  else
    match scanner.remainder? source with
    | none => .misplaced
    | some text =>
      match text.toList with
      | [] => .stuck
      | c :: rest => .next (scanner.step c rest).1

/-- Some turns one after the other, with their number. -/
inductive Turns (source : String) : Scanner → Nat → Scanner → Prop where
  | none (scanner : Scanner) : Turns source scanner 0 scanner
  | more {scanner next last : Scanner} {count : Nat} (turn : scanner.turn source = .next next)
      (others : Turns source next count last) : Turns source scanner (count + 1) last

section Loop

variable {source : String} {past rest : List Char} {scanner next last : Scanner} {count : Nat}

theorem StandsAfter.turn_finished (stands : StandsAfter source past scanner)
    (split : source.toList = past) : scanner.turn source = .finished := by
  rw [← List.append_nil past] at split
  rw [turn, if_pos ((stands.atEnd_iff split).mpr rfl)]

theorem StandsAfter.turn_next (stands : StandsAfter source past scanner) {c : Char}
    (split : source.toList = past ++ c :: rest) :
    scanner.turn source = .next (scanner.step c rest).1 := by
  have more : ¬ scanner.atEnd source = true := by simp [stands.atEnd_iff split]
  rw [turn, if_neg more, stands.remainder?_eq split]
  simp only [String.toList_ofList]

/-- A turn finds the end, or reads a character at least and keeps the scanner in order. -/
theorem InOrder.turn (before : InOrder source past scanner) :
    past = source.toList ∧ scanner.turn source = .finished ∨
      ∃ piece next, piece ≠ [] ∧ scanner.turn source = .next next ∧
        InOrder source (past ++ piece) next := by
  obtain ⟨rest, split⟩ := before.stands.begins
  cases rest with
  | nil =>
    rw [List.append_nil] at split
    exact .inl ⟨split, before.stands.turn_finished split.symm⟩
  | cons c rest =>
    obtain ⟨piece, front, reads⟩ := scanner.exists_reads c rest
    refine .inr ⟨piece, _, reads.ne_nil, before.stands.turn_next split.symm, ?_⟩
    refine before.reads reads ⟨(scanner.step c rest).2, ?_⟩
    rw [List.append_assoc, ← front, split]

/-- After some turns the scanner is in order still, and a character further with each of them. -/
theorem InOrder.turns (before : InOrder source past scanner)
    (turns : Turns source scanner count last) :
    ∃ piece, InOrder source (past ++ piece) last ∧ count ≤ piece.length := by
  induction turns generalizing past with
  | none scanner => exact ⟨[], by rwa [List.append_nil], Nat.le_refl 0⟩
  | @more scanner next last count turn others ih =>
    rcases before.turn with ⟨-, finished⟩ | ⟨piece, after, nonempty, same, here⟩
    · rw [turn] at finished
      cases finished
    · rw [turn] at same
      cases same
      obtain ⟨further, there, least⟩ := ih here
      refine ⟨piece ++ further, by rwa [← List.append_assoc], ?_⟩
      have one := List.length_pos_iff.mpr nonempty
      rw [List.length_append]
      omega

/-- The turns go all the way, just as a run does, and there are no more of them than characters. -/
theorem InOrder.exists_turns (before : InOrder source past scanner)
    (split : source.toList = past ++ rest) :
    ∃ count ≤ rest.length, Turns source scanner count (scanner.run rest) ∧
      InOrder source source.toList (scanner.run rest) := by
  fun_induction Scanner.run scanner rest generalizing past with
  | case1 scanner =>
    rw [List.append_nil] at split
    exact ⟨0, Nat.le_refl 0, .none scanner, split ▸ before⟩
  | case2 scanner c rest next =>
    rename_i ih
    obtain ⟨piece, front, reads⟩ := scanner.exists_reads c rest
    have turn := before.stands.turn_next split
    have one := List.length_pos_iff.mpr reads.ne_nil
    have size : (c :: rest).length = (piece ++ next.2).length := congrArg List.length front
    rw [List.length_cons, List.length_append] at size
    rw [front, ← List.append_assoc] at split
    obtain ⟨count, least, turns, whole⟩ := ih (before.reads reads ⟨next.2, split.symm⟩) split
    refine ⟨count + 1, ?_, .more turn turns, whole⟩
    rw [List.length_cons]
    omega

end Loop

/-! ## Actions -/

/-- What can be done with a scanner from outside. -/
inductive Action where
  | advance (text : String)
  | push (token : Token)
  | spanOf (text : String)

/-- The scanner after an action. To ask for a span changes nothing. -/
def act (scanner : Scanner) : Action → Scanner
  | .advance text => scanner.advance text
  | .push token => scanner.push token
  | .spanOf _ => scanner

/-- Whether an action moves past nothing but what comes next. -/
def Admits (source : String) (scanner : Scanner) : Action → Prop
  | .advance text => ∃ rest, scanner.remainder? source = some rest ∧ text.toList <+: rest.toList
  | .push _ | .spanOf _ => True

/-- Whether each of some actions does so when it is taken. -/
def AdmitsAll (source : String) : Scanner → List Action → Prop
  | _, [] => True
  | scanner, action :: actions =>
    scanner.Admits source action ∧ (scanner.act action).AdmitsAll source actions

section Actions

variable {source : String} {past : List Char} {scanner : Scanner}

theorem StandsAfter.act (stands : StandsAfter source past scanner) {action : Action}
    (admits : scanner.Admits source action) :
    ∃ past, StandsAfter source past (scanner.act action) := by
  cases action with
  | advance text =>
    obtain ⟨rest, split⟩ := stands.begins
    obtain ⟨remainder, cut, others, begins⟩ := admits
    rw [stands.remainder?_eq split.symm] at cut
    cases cut
    rw [String.toList_ofList] at begins
    refine ⟨past ++ text.toList, stands.advance ⟨others, ?_⟩⟩
    rw [List.append_assoc, begins, split]
  | push token => exact ⟨past, stands.push token⟩
  | spanOf text => exact ⟨past, stands⟩

theorem StandsAfter.foldl_act (stands : StandsAfter source past scanner) {actions : List Action}
    (admits : scanner.AdmitsAll source actions) :
    ∃ past, StandsAfter source past (actions.foldl Scanner.act scanner) := by
  induction actions generalizing past scanner with
  | nil => exact ⟨past, stands⟩
  | cons action actions ih =>
    obtain ⟨first, others⟩ := admits
    obtain ⟨further, there⟩ := stands.act first
    exact ih there others

/-- A text that is not what comes next can end inside of a character. -/
example : ((start {}).act (.advance "1")).remainder? "é" = none := by decide +kernel

end Actions

/-- Before every turn of the loop the scanner stands between two characters of the source, or at an
end of it, by its bytes as by its characters, and its flag tells whether the last token is a number
with only unrecognised characters behind it. The source can be cut there, and unless nothing is left
the turn moves on by a character at least. So there are no more turns than characters; then the
loop has come to the end, with the tokens of the scan. And a scanner that is driven from outside
stands so too, if it is moved by nothing but what comes next. -/
theorem stands_throughout (settings : Settings) (source : String) :
    (∀ count scanner, Turns source (start settings) count scanner →
      ∃ past rest, source.toList = past ++ rest ∧ StandsAfter source past scanner ∧
        (scanner.extendsNumber = true ↔ scanner.Grows past) ∧
        scanner.remainder? source = some (String.ofList rest) ∧ count ≤ past.length ∧
        (rest = [] ∧ scanner.turn source = .finished ∨
          ∃ next, scanner.turn source = .next next ∧ scanner.column < next.column)) ∧
    (∃ count scanner, Turns source (start settings) count scanner ∧ count ≤ source.length ∧
      scanner.turn source = .finished ∧ scan settings source = scanner.finish) ∧
    ∀ actions, (start settings).AdmitsAll source actions →
      ∃ past, StandsAfter source past (actions.foldl act (start settings)) := by
  have begun := inOrder_start settings source
  refine ⟨?_, ?_, fun actions => (standsAfter_start settings source).foldl_act⟩
  · intro count scanner turns
    obtain ⟨past, here, least⟩ := begun.turns turns
    rw [List.nil_append] at here
    obtain ⟨rest, split⟩ := here.stands.begins
    refine ⟨past, rest, split.symm, here.stands, here.extends_iff,
      here.stands.remainder?_eq split.symm, least, ?_⟩
    rcases here.turn with ⟨whole, finished⟩ | ⟨piece, next, nonempty, turn, there⟩
    · exact .inl ⟨by simpa [whole] using split, finished⟩
    · refine .inr ⟨next, turn, ?_⟩
      have one := List.length_pos_iff.mpr nonempty
      rw [here.stands.column, there.stands.column, List.length_append]
      omega
  · obtain ⟨count, least, turns, whole⟩ := begun.exists_turns (List.nil_append _).symm
    rw [String.length_toList] at least
    exact ⟨count, _, turns, least, whole.stands.turn_finished rfl, rfl⟩

/-- Behind the character of `2é3` that is dropped, the number may still go on. -/
theorem stands_throughout_dropped :
    let scanner := ((start .lenient).readNumber "2").readUnrecognised 'é'
    let actions : List Action := [.advance "2", .spanOf "é", .advance "é"]
    Turns "2é3" (start .lenient) 2 scanner ∧
    (∃ past, StandsAfter "2é3" past scanner ∧ scanner.Grows past) ∧
    (start .lenient).AdmitsAll "2é3" actions ∧
    ∃ past, StandsAfter "2é3" past (actions.foldl act (start .lenient)) := by
  intro scanner actions
  obtain ⟨before, -, after⟩ := stands_throughout .lenient "2é3"
  have turns : Turns "2é3" (start .lenient) 2 scanner := .more rfl (.more rfl (.none _))
  have admits : (start .lenient).AdmitsAll "2é3" actions := by
    refine ⟨⟨"2é3", by decide +kernel, by decide⟩, trivial, ⟨"é3", by decide +kernel, by decide⟩,
      trivial⟩
  obtain ⟨past, -, -, stands, growing, -⟩ := before 2 scanner turns
  exact ⟨turns, ⟨past, stands, growing.mp rfl⟩, admits, after actions admits⟩

end Calculator.Scanner

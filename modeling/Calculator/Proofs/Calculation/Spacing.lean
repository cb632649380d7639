import Calculator.Proofs.Calculation.Lenient

/-!
# Blank characters between tokens

Where no number goes on from one part of a text to the next, blank characters may stand between the
two. The scanner then reads the words that it reads without them, and those of the second part
further on (`Token.scan_widen`); so the text has the same value, or the same fault at a position
that is moved along. What decides is not the characters at the cut but the nearest ones that the
settings keep: a dropped character does not separate two digits.
-/

namespace Calculator

/-- Where a position goes when a text is widened at a cut. -/
def Text.widen (cut width position : Nat) : Nat :=
  if position < cut then position else position + width

namespace Settings

variable {text : List Char} {mark : Mark}

/-- The characters of a text that the settings do not drop. -/
def kept (settings : Settings) (text : String) : List Char := text.toList.filter settings.keeps

theorem fst_marks (settings : Settings) (text : List Char) (position : Nat) :
    (settings.marks text position).map Prod.fst = text.filter settings.keeps := by
  have filtered := List.filter_map (p := settings.keeps) (f := Prod.fst) (l := text.zipIdx position)
  rw [List.zipIdx_map_fst] at filtered
  exact filtered.symm

theorem getLast?_kept (settings : Settings) (text : String) (position : Nat) :
    (settings.marks text.toList position).getLast?.map Prod.fst = (settings.kept text).getLast? := by
  rw [kept, ← settings.fst_marks _ position, List.getLast?_map]

theorem head?_kept (settings : Settings) (text : String) (position : Nat) :
    (settings.marks text.toList position).head?.map Prod.fst = (settings.kept text).head? := by
  rw [kept, ← settings.fst_marks _ position, List.head?_map]

/-- The marks of a text that starts further on. -/
theorem marks_add (settings : Settings) (text : List Char) (position width : Nat) :
    settings.marks text (position + width) =
      (settings.marks text position).map (Prod.map id (· + width)) := by
  rw [marks, Nat.add_comm, ← List.map_snd_add_zipIdx_eq_zipIdx, List.filter_map]
  rfl

/-- The marks on both sides of a cut, where the text behind it is moved on. -/
theorem marks_widen (settings : Settings) (first second : List Char) (width : Nat) :
    (settings.marks (first ++ second)).map (Prod.map id (Text.widen first.length width)) =
      settings.marks first ++ settings.marks second (first.length + width) := by
  rw [marks_append, List.map_append, Nat.zero_add, marks_add]
  congr 1
  · refine (List.map_congr_left fun mark member => ?_).trans (List.map_id _)
    have before := List.snd_lt_add_of_mem_zipIdx (List.mem_of_mem_filter member)
    rw [Nat.zero_add] at before
    exact Prod.ext rfl (if_pos before)
  · refine List.map_congr_left fun mark member => ?_
    have behind := List.le_snd_of_mem_zipIdx (List.mem_of_mem_filter member)
    exact Prod.ext rfl (if_neg (Nat.not_lt.mpr behind))

end Settings

namespace Token

/-- No token reaches over blank characters. -/
theorem ofMarks_append_blank {first blank second : List Mark}
    (white : ∀ mark ∈ blank, Text.isBlank mark.1 = true)
    (apart : ∀ last ∈ first.getLast?, ∀ next ∈ second.head?,
      (isNumeral last.1 && isNumeral next.1) = false) :
    ofMarks (first ++ (blank ++ second)) = ofMarks first ++ ofMarks second := by
  have single : ∀ mark ∈ blank, isNumeral mark.1 = false :=
    fun mark member => isNumeral_of_isBlank (white mark member)
  have before : ∀ last ∈ blank.getLast?, ∀ next ∈ second.head?,
      (isNumeral last.1 && isNumeral next.1) = false := by
    intro last ended next _
    rw [single last (List.mem_of_mem_getLast? ended), Bool.false_and]
  have after : ∀ last ∈ first.getLast?, ∀ next ∈ (blank ++ second).head?,
      (isNumeral last.1 && isNumeral next.1) = false := by
    intro last ended next head
    cases blank with
    | nil => exact apart last ended next head
    | cons mark blank =>
      obtain rfl : mark = next := Option.some.inj head
      rw [single mark List.mem_cons_self, Bool.and_false]
  rw [ofMarks_append after, ofMarks_append before, ofMarks_blank white, List.nil_append]

variable {settings : Settings} {first blank second : String}

/-- Blank characters at a cut that goes through no number move the words behind the cut and change
nothing else. -/
theorem scan_widen (white : ∀ c ∈ blank.toList, Text.isBlank c = true)
    (apart : ∀ last ∈ (settings.kept first).getLast?, ∀ next ∈ (settings.kept second).head?,
      (isNumeral last && isNumeral next) = false) :
    ∃ words, scan settings (first ++ second) = words ++ [finish (first ++ second).length] ∧
      scan settings (first ++ blank ++ second) =
        words.map (relocate (Text.widen first.length blank.length)) ++
          [finish (first ++ blank ++ second).length] := by
  have separate (position : Nat) : ∀ last ∈ (settings.marks first.toList).getLast?,
      ∀ next ∈ (settings.marks second.toList position).head?,
        (isNumeral last.1 && isNumeral next.1) = false := by
    intro last ended next head
    refine apart last.1 ?_ next.1 ?_
    · rw [← settings.getLast?_kept _ 0]
      exact Option.mem_map_of_mem Prod.fst ended
    · rw [← settings.head?_kept _ position]
      exact Option.mem_map_of_mem Prod.fst head
  have spaces : ∀ mark ∈ blank.toList.zipIdx first.length, Text.isBlank mark.1 = true :=
    fun mark member => white mark.1 (List.fst_mem_of_mem_zipIdx member)
  have wide : settings.marks (first ++ blank ++ second).toList =
      settings.marks first.toList ++ (blank.toList.zipIdx first.length ++
        settings.marks second.toList (first.length + blank.length)) := by
    rw [String.toList_append, String.toList_append, List.append_assoc, Settings.marks_append,
      Settings.marks_append, Settings.marks_eq_zipIdx fun c member =>
        Settings.keeps_of_isBlank (white c member)]
    simp only [Nat.zero_add, String.length_toList]
  refine ⟨ofMarks (settings.marks (first ++ second).toList), scan_eq settings _, ?_⟩
  rw [scan_eq, wide, ofMarks_append_blank spaces (separate _), ← ofMarks_append (separate _),
    ← ofMarks_map, String.toList_append, ← String.length_toList, Settings.marks_widen,
    String.length_toList]

/-- The tokens of a text are those of it with blank characters at such a cut, each where it is moved
to. -/
theorem moves_scan_widen (white : ∀ c ∈ blank.toList, Text.isBlank c = true)
    (apart : ∀ last ∈ (settings.kept first).getLast?, ∀ next ∈ (settings.kept second).head?,
      (isNumeral last && isNumeral next) = false) :
    List.Forall₂ (Token.Moves (.ofStarts (Text.widen first.length blank.length)))
      (scan settings (first ++ second)) (scan settings (first ++ blank ++ second)) := by
  obtain ⟨words, narrow, wide⟩ := scan_widen white apart
  have ends : Text.widen first.length blank.length (first ++ second).length =
      (first ++ blank ++ second).length := by
    have behind : first.length ≤ first.length + second.length := Nat.le_add_right _ _
    simp only [String.length_append]
    rw [Text.widen, if_neg (Nat.not_lt.mpr behind)]
    omega
  rw [narrow, wide]
  exact moves_relocate ends words

end Token

/-- Blank characters between two parts of a text change nothing but positions, unless a number goes
on from the first part to the second: the text has the same value, or the same fault, which stays
where it is before the cut and is moved along behind it. -/
theorem calculate_append_blank (settings : Settings) {first blank second : String}
    (white : ∀ c ∈ blank.toList, Text.isBlank c = true)
    (apart : ∀ last ∈ (settings.kept first).getLast?, ∀ next ∈ (settings.kept second).head?,
      (isNumeral last && isNumeral next) = false) :
    calculate settings (first ++ blank ++ second) =
      (calculate settings (first ++ second)).mapError
        (Fault.move (Text.widen first.length blank.length)) := by
  have same : settings = settings.withStrict settings.strict := rfl
  have related := Token.moves_scan_widen white apart
  rw [same] at related
  have moved := calculate_of_moves related
  exact moved

/-- Between two dropped characters a tab and a wide space move the sign that divides by zero. -/
theorem calculate_append_blank_quotient :
    (∀ c ∈ "\t\u3000".toList, Text.isBlank c = true) ∧
    (∀ last ∈ (Settings.lenient.kept "(1é").getLast?,
      ∀ next ∈ (Settings.lenient.kept "é/0)").head?,
        (isNumeral last && isNumeral next) = false) ∧
    calculate .lenient ("(1é" ++ "é/0)") = .error ⟨.divisionByZero, 4⟩ ∧
    calculate .lenient ("(1é" ++ "\t\u3000" ++ "é/0)") = .error ⟨.divisionByZero, 6⟩ := by
  have white : ∀ c ∈ "\t\u3000".toList, Text.isBlank c = true :=
    List.all_eq_true.mp (by decide)
  have ended : (Settings.lenient.kept "(1é").getLast? = some '1' := by decide
  have begun : (Settings.lenient.kept "é/0)").head? = some '/' := by decide
  have apart : ∀ last ∈ (Settings.lenient.kept "(1é").getLast?,
      ∀ next ∈ (Settings.lenient.kept "é/0)").head?,
        (isNumeral last && isNumeral next) = false := by
    rw [ended, begun]
    rintro last ⟨⟩ next ⟨⟩
    rfl
  have narrow : calculate .lenient ("(1é" ++ "é/0)") = .error ⟨.divisionByZero, 4⟩ := by
    decide +kernel
  refine ⟨white, apart, narrow, ?_⟩
  rw [calculate_append_blank .lenient white apart, narrow]
  rfl

end Calculator

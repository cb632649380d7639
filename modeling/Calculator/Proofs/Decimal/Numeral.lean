import Calculator.Decimal.Numeral
import Calculator.Token.Scanner
import Mathlib.Data.List.TakeDrop
import Mathlib.Data.List.TakeWhile

/-!
# Which runs of digits and points are numerals

A scanner takes any run of digits and points for a number. Those with a digit and with one point at
most can be read, and no others.
-/

namespace Calculator.Decimal

variable {text whole fraction more : List Char}

/-- Whether a text is made of digits alone. -/
def Digits (text : List Char) : Prop := ∀ c ∈ text, c.isDigit = true

theorem takeSign_of_numeral (numeral : ∀ c ∈ text, isNumeral c = true) :
    takeSign text = (false, text) := by
  unfold takeSign
  split
  · exact absurd (numeral '-' List.mem_cons_self) (by decide)
  · exact absurd (numeral '+' List.mem_cons_self) (by decide)
  · rfl

theorem toLower_of_isNumeral {c : Char} (numeral : isNumeral c = true) : c.toLower = c := by
  refine dif_neg fun upper => ?_
  simp only [isNumeral, Bool.or_eq_true, beq_iff_eq] at numeral
  rcases numeral with digit | rfl
  · have least : 65 ≤ c.toNat := UInt32.le_iff_toNat_le.mp upper.1
    have most : c.toNat ≤ 57 := (Char.isDigit_iff_toNat.mp digit).2
    omega
  · revert upper
    decide

theorem readWord?_of_numeral (numeral : ∀ c ∈ text, isNumeral c = true) :
    readWord? text = none := by
  have same : text.map Char.toLower = text := by
    rw [List.map_congr_left fun c member => toLower_of_isNumeral (numeral c member), List.map_id']
  have letter {c : Char} (member : c ∈ text) (other : isNumeral c = false) : False := by
    rw [numeral c member] at other
    cases other
  rw [readWord?, same, if_neg, if_neg]
  · rintro rfl
    exact letter List.mem_cons_self (by decide)
  · rintro (rfl | rfl)
    · exact letter List.mem_cons_self (by decide)
    · exact letter List.mem_cons_self (by decide)

/-- Digits and points start with digits, after which they end or go on with a point. -/
theorem exists_digits (numeral : ∀ c ∈ text, isNumeral c = true) :
    Digits text ∨ ∃ whole more, text = whole ++ '.' :: more ∧ Digits whole := by
  induction text with
  | nil => exact .inl fun c member => absurd member List.not_mem_nil
  | cons c text ih =>
    have first := numeral c List.mem_cons_self
    simp only [isNumeral, Bool.or_eq_true, beq_iff_eq] at first
    rcases first with digit | rfl
    case inr => exact .inr ⟨[], text, rfl, fun c member => absurd member List.not_mem_nil⟩
    rcases ih fun other member => numeral other (List.mem_cons_of_mem c member) with
      all | ⟨whole, more, rfl, digits⟩
    · exact .inl (List.forall_mem_cons.mpr ⟨digit, all⟩)
    · exact .inr ⟨c :: whole, more, rfl, List.forall_mem_cons.mpr ⟨digit, digits⟩⟩

theorem span_of_digits (digits : Digits text) : text.span Char.isDigit = (text, []) := by
  rw [List.span_eq_takeWhile_dropWhile, List.takeWhile_eq_self_iff.mpr digits,
    List.dropWhile_eq_nil_iff.mpr digits]

theorem span_of_point (digits : Digits whole) (more : List Char) :
    (whole ++ '.' :: more).span Char.isDigit = (whole, '.' :: more) := by
  have stop : ¬ '.'.isDigit = true := by decide
  rw [List.span_eq_takeWhile_dropWhile, List.takeWhile_append_of_pos digits,
    List.dropWhile_append_of_pos digits, List.takeWhile_cons_of_neg stop,
    List.dropWhile_cons_of_neg stop, List.append_nil]

theorem count_point (digits : Digits text) : text.count '.' = 0 := by
  refine List.count_eq_zero_of_not_mem fun member => ?_
  exact absurd (digits '.' member) (by decide)

/-- Digits are read if there are any. -/
theorem isSome_readDigits?_of_digits (digits : Digits text) :
    (readDigits? text).isSome = true ↔ text ≠ [] := by
  rw [readDigits?, span_of_digits digits]
  simp [takeFraction, readExponent?]

/-- Digits with one point are read if there are any on one side of it. -/
theorem isSome_readDigits?_of_point (digits : Digits whole) (others : Digits fraction) :
    (readDigits? (whole ++ '.' :: fraction)).isSome = true ↔ ¬ (whole = [] ∧ fraction = []) := by
  rw [readDigits?, span_of_point digits]
  simp only [takeFraction, span_of_digits others]
  simp [readExponent?]

/-- Nothing is read past a second point. -/
theorem readDigits?_of_points (digits : Digits whole) (others : Digits fraction) (more : List Char) :
    readDigits? (whole ++ '.' :: (fraction ++ '.' :: more)) = none := by
  rw [readDigits?, span_of_point digits]
  simp only [takeFraction, span_of_point others]
  simp [readExponent?]

/-- A run of digits and points can be read exactly if it has a digit and one point at most. -/
theorem isSome_read?_iff {text : String} (numeral : ∀ c ∈ text.toList, isNumeral c = true) :
    (read? text).isSome = true ↔
      (∃ c ∈ text.toList, c.isDigit = true) ∧ text.toList.count '.' ≤ 1 := by
  have same : (read? text).isSome = (readDigits? text.toList).isSome := by
    simp [read?, takeSign_of_numeral numeral, readWord?_of_numeral numeral]
  rw [same]
  generalize text.toList = text at numeral
  rcases exists_digits numeral with digits | ⟨whole, more, rfl, digits⟩
  case inl =>
    rw [isSome_readDigits?_of_digits digits, count_point digits]
    constructor
    · intro some
      exact ⟨⟨text.head some, List.head_mem some, digits _ (List.head_mem some)⟩, Nat.zero_le 1⟩
    · rintro ⟨⟨c, member, -⟩, -⟩
      exact List.ne_nil_of_mem member
  have rest : ∀ c ∈ more, isNumeral c = true := fun c member =>
    numeral c (List.mem_append_right whole (List.mem_cons_of_mem '.' member))
  rcases exists_digits rest with others | ⟨fraction, more, rfl, others⟩
  · rw [isSome_readDigits?_of_point digits others]
    have points : (whole ++ '.' :: more).count '.' = 1 := by
      rw [List.count_append, List.count_cons_self, count_point digits, count_point others]
    rw [points]
    constructor
    · intro some
      refine ⟨?_, Nat.le_refl 1⟩
      by_cases empty : whole = []
      case neg =>
        exact ⟨whole.head empty, List.mem_append_left _ (List.head_mem empty),
          digits _ (List.head_mem empty)⟩
      have later : more ≠ [] := fun none => some ⟨empty, none⟩
      exact ⟨more.head later,
        List.mem_append_right _ (List.mem_cons_of_mem '.' (List.head_mem later)),
        others _ (List.head_mem later)⟩
    · rintro ⟨⟨c, member, digit⟩, -⟩ ⟨rfl, rfl⟩
      rw [List.nil_append, List.mem_singleton] at member
      subst member
      revert digit
      decide
  · rw [readDigits?_of_points digits others]
    have points : 2 ≤ (whole ++ '.' :: (fraction ++ '.' :: more)).count '.' := by
      rw [List.count_append, List.count_cons_self, List.count_append, List.count_cons_self]
      omega
    refine iff_of_false Bool.false_ne_true ?_
    rintro ⟨-, one⟩
    omega

end Calculator.Decimal

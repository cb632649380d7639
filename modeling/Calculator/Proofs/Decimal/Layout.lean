import Calculator.Decimal.Layout

/-!
# The characters of floats

In any layout, the text of a float consists of digits, minus signs, points, the mark of an exponent
and the letters of `NaN` and `inf` (`isFloatMark_of_mem_text`), and it is not empty.
-/

namespace Calculator.Decimal

/-- The characters that the text of a float can have. -/
def isFloatMark (c : Char) : Bool :=
  c.isDigit || ['-', '.', 'e', 'N', 'a', 'i', 'n', 'f'].contains c

variable {c : Char} {digits : List Char}

theorem isFloatMark_of_isDigit (digit : c.isDigit = true) : isFloatMark c = true := by
  rw [isFloatMark, digit, Bool.true_or]

theorem isDigit_of_mem_replicate {count : Nat} (member : c ∈ List.replicate count '0') :
    c.isDigit = true := by
  rw [List.eq_of_mem_replicate member]
  rfl

/-- Zeros are put before digits and after them, and a point between them. -/
theorem isFloatMark_of_mem_positionalText {places : Nat} {exponent : Int}
    (numeric : ∀ c ∈ digits, c.isDigit = true)
    (member : c ∈ positionalText places digits exponent) : isFloatMark c = true := by
  let padded := List.replicate ((-exponent).toNat + 1 - digits.length) '0' ++ digits
  have inside {other : Char} (there : other ∈ padded) : isFloatMark other = true := by
    rcases List.mem_append.mp there with zero | digit
    · exact isFloatMark_of_isDigit (isDigit_of_mem_replicate zero)
    · exact isFloatMark_of_isDigit (numeric other digit)
  have zero {count : Nat} (there : c ∈ List.replicate count '0') : isFloatMark c = true :=
    isFloatMark_of_isDigit (isDigit_of_mem_replicate there)
  have whole {count more : Nat} (there : c ∈ padded.take count ++ List.replicate more '0') :
      isFloatMark c = true :=
    (List.mem_append.mp there).elim (fun kept => inside (List.mem_of_mem_take kept)) zero
  have fraction {count more : Nat} (there : c ∈ padded.drop count ++ List.replicate more '0') :
      isFloatMark c = true :=
    (List.mem_append.mp there).elim (fun kept => inside (List.mem_of_mem_drop kept)) zero
  unfold positionalText at member
  simp only at member
  split at member
  · exact whole member
  · rcases List.mem_append.mp member with before | after
    · exact whole before
    · rcases List.mem_cons.mp after with rfl | after
      · rfl
      · exact fraction after

theorem isFloatMark_of_mem_scientificText {exponent : Int}
    (numeric : ∀ c ∈ digits, c.isDigit = true)
    (member : c ∈ scientificText digits exponent) : isFloatMark c = true := by
  have digit (there : c ∈ digits) : isFloatMark c = true :=
    isFloatMark_of_isDigit (numeric c there)
  unfold scientificText at member
  simp only [List.append_assoc, List.mem_append, List.mem_cons] at member
  rcases member with mantissa | (rfl | sign) | digits
  · split at mantissa
    · exact digit mantissa
    · rcases List.mem_append.mp mantissa with before | after
      · exact digit (List.mem_of_mem_take before)
      · rcases List.mem_cons.mp after with rfl | after
        · rfl
        · exact digit (List.mem_of_mem_drop after)
  · rfl
  · split at sign
    · rw [List.mem_singleton.mp sign]
      rfl
    · cases sign
  · exact isFloatMark_of_isDigit (Nat.isDigit_of_mem_toDigits (by decide) (by decide) digits)

theorem isFloatMark_of_mem_scaled {layout : Layout} {number : Scaled}
    (member : c ∈ number.text layout) : isFloatMark c = true := by
  have numeric : ∀ c ∈ Nat.toDigits 10 number.coefficient, c.isDigit = true :=
    fun c there => Nat.isDigit_of_mem_toDigits (by decide) (by decide) there
  obtain ⟨places, _ | ⟨least, greatest⟩⟩ := layout
  · exact isFloatMark_of_mem_positionalText numeric member
  · unfold Scaled.text at member
    simp only at member
    split at member
    · exact isFloatMark_of_mem_positionalText numeric member
    · exact isFloatMark_of_mem_scientificText numeric member

theorem isFloatMark_of_mem_sign {negative : Bool} (member : c ∈ Shape.text.sign negative) :
    isFloatMark c = true := by
  cases negative with
  | false => cases member
  | true =>
    rw [List.mem_singleton.mp member]
    rfl

theorem isFloatMark_of_mem_text {layout : Layout} {value : Float}
    (member : c ∈ (text layout value).toList) : isFloatMark c = true := by
  rw [text, String.toList_ofList] at member
  cases shape : Shape.ofBits value.toBits.toNat with
  | notANumber =>
    rw [shape] at member
    have letters : ['N', 'a', 'N'].all isFloatMark = true := rfl
    exact List.all_eq_true.mp letters c member
  | infinite negative =>
    rw [shape] at member
    rcases List.mem_append.mp member with sign | word
    · exact isFloatMark_of_mem_sign sign
    · have letters : ['i', 'n', 'f'].all isFloatMark = true := rfl
      exact List.all_eq_true.mp letters c word
  | finite negative magnitude =>
    rw [shape] at member
    rcases List.mem_append.mp member with sign | number
    · exact isFloatMark_of_mem_sign sign
    · exact isFloatMark_of_mem_scaled number

/-- Where no fraction is written, at least one digit is. -/
theorem positionalText_ne_nil (places : Nat) (digits : List Char) (exponent : Int) :
    positionalText places digits exponent ≠ [] := by
  unfold positionalText
  simp only
  split
  · intro none
    have empty := congrArg List.length none
    simp only [List.length_append, List.length_take, List.length_replicate,
      List.length_nil] at empty
    omega
  · exact List.append_ne_nil_of_right_ne_nil _ (List.cons_ne_nil _ _)

theorem scientificText_ne_nil (digits : List Char) (exponent : Int) :
    scientificText digits exponent ≠ [] := by
  rw [scientificText, List.append_assoc]
  exact List.append_ne_nil_of_right_ne_nil _ (List.cons_ne_nil _ _)

theorem scaled_text_ne_nil (layout : Layout) (number : Scaled) : number.text layout ≠ [] := by
  obtain ⟨places, _ | ⟨least, greatest⟩⟩ := layout
  · exact positionalText_ne_nil _ _ _
  · unfold Scaled.text
    simp only
    split
    · exact positionalText_ne_nil _ _ _
    · exact scientificText_ne_nil _ _

theorem text_ne_empty (layout : Layout) (value : Float) : text layout value ≠ "" := by
  rw [text, ne_eq, ← String.toList_eq_nil_iff, String.toList_ofList]
  cases Shape.ofBits value.toBits.toNat with
  | notANumber => exact List.cons_ne_nil _ _
  | infinite negative => exact List.append_ne_nil_of_right_ne_nil _ (List.cons_ne_nil _ _)
  | finite negative magnitude =>
    exact List.append_ne_nil_of_right_ne_nil _ (scaled_text_ne_nil _ _)

end Calculator.Decimal

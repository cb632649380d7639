import Calculator.Proofs.Text.Line

/-!
# Lines of characters and of bytes

The lines of a list are what stands between its feeds, and a feed at the very end opens no further
line. In UTF-8 no character but the line feed has a byte of ten, so the lines of the bytes of a text
are the bytes of its lines (`lines_bytes`).
-/

namespace Calculator.Text

section Lines

variable {α : Type} [DecidableEq α] {feed : α} {line : List α}

/-- What stands between the feeds of a list. A feed at the very end opens no further line. -/
def lines (feed : α) (items : List α) : List (List α) :=
  let parts := items.splitOn feed
  if parts.getLast? = some [] then parts.dropLast else parts

@[simp] theorem lines_nil (feed : α) : lines feed [] = [] := by
  simp [lines, List.splitOn_nil]

theorem lines_of_plain (plain : feed ∉ line) (some : line ≠ []) : lines feed line = [line] := by
  simp [lines, List.splitOn_eq_singleton plain, some]

theorem lines_append_feed (plain : feed ∉ line) (rest : List α) :
    lines feed (line ++ feed :: rest) = line :: lines feed rest := by
  have some : rest.splitOn feed ≠ [] := List.splitOn_ne_nil feed rest
  rw [lines, List.splitOn_append_cons_self_of_not_mem plain, lines]
  simp only [List.getLast?_cons_of_ne_nil some, List.dropLast_cons_of_ne_nil some]
  split <;> rfl

/-- Lines that are written one after the other are the lines of the whole. -/
theorem lines_flatMap {items : List (List α)} (plain : ∀ line ∈ items, feed ∉ line) :
    lines feed (items.flatMap (· ++ [feed])) = items := by
  induction items with
  | nil => exact lines_nil feed
  | cons line items ih =>
    rw [List.flatMap_cons, List.append_assoc, List.singleton_append,
      lines_append_feed (plain line List.mem_cons_self),
      ih fun other member => plain other (List.mem_cons_of_mem _ member)]

end Lines

/-! ## Bytes -/

/-- The bytes of a text in UTF-8. -/
def bytes (text : List Char) : List UInt8 := text.flatMap String.utf8EncodeChar

theorem ten_ne_ofNat {value : Nat} (high : 127 < value) (small : value < 256) :
    (10 : UInt8) ≠ UInt8.ofNat value := by
  intro same
  have values : 10 = value % 256 := by
    rw [← UInt8.toNat_ofNat', ← same]
    rfl
  omega

/-- All bytes of a character of more than one byte have their highest bit set. -/
theorem ten_notMem_of_long {c : Char} (long : 127 < c.val.toNat) :
    10 ∉ String.utf8EncodeChar c := by
  have most : c.val.toNat < 2 ^ 32 := c.val.toNat_lt
  unfold String.utf8EncodeChar
  simp only [if_neg (Nat.not_le.mpr long)]
  split
  · simp only [List.mem_cons, List.not_mem_nil, or_false, not_or]
    exact ⟨ten_ne_ofNat (by omega) (by omega), ten_ne_ofNat (by omega) (by omega)⟩
  split
  · simp only [List.mem_cons, List.not_mem_nil, or_false, not_or]
    exact ⟨ten_ne_ofNat (by omega) (by omega), ten_ne_ofNat (by omega) (by omega),
      ten_ne_ofNat (by omega) (by omega)⟩
  · simp only [List.mem_cons, List.not_mem_nil, or_false, not_or]
    exact ⟨ten_ne_ofNat (by omega) (by omega), ten_ne_ofNat (by omega) (by omega),
      ten_ne_ofNat (by omega) (by omega), ten_ne_ofNat (by omega) (by omega)⟩

/-- A byte of ten stands for a line feed, and is part of no other character. -/
theorem eq_feed_of_ten_mem {c : Char} (member : 10 ∈ String.utf8EncodeChar c) : c = '\n' := by
  rcases Nat.lt_or_ge 127 c.val.toNat with long | short
  · exact absurd member (ten_notMem_of_long long)
  · simp only [String.utf8EncodeChar, if_pos short, List.mem_singleton] at member
    have value := congrArg UInt8.toNat member
    rw [UInt8.toNat_ofNat', Nat.mod_eq_of_lt (Nat.lt_of_le_of_lt short (by decide))] at value
    exact Char.toNat_inj.mp value.symm

theorem ten_notMem_bytes {line : List Char} (plain : '\n' ∉ line) : 10 ∉ bytes line := by
  intro member
  obtain ⟨c, inside, encoded⟩ := List.mem_flatMap.mp member
  exact plain (eq_feed_of_ten_mem encoded ▸ inside)

theorem lines_bytes (text : List Char) :
    lines 10 (bytes text) = (lines '\n' text).map bytes := by
  induction text using lineInduction '\n' with
  | last line plain =>
    cases line with
    | nil => rfl
    | cons c line =>
      have some : bytes (c :: line) ≠ [] := by
        simp [bytes, String.utf8EncodeChar_ne_nil]
      rw [lines_of_plain (ten_notMem_bytes plain) some, lines_of_plain plain (by simp)]
      rfl
  | more line rest plain ih =>
    have split : bytes (line ++ '\n' :: rest) = bytes line ++ 10 :: bytes rest := by
      simp only [bytes, List.flatMap_append, List.flatMap_cons]
      rfl
    rw [split, lines_append_feed (ten_notMem_bytes plain), lines_append_feed plain, ih]
    rfl

theorem toList_loop (array : ByteArray) (index : Nat) (read : List UInt8) :
    ByteArray.toList.loop array index read = read.reverse ++ array.data.toList.drop index := by
  fun_induction ByteArray.toList.loop array index read with
  | case1 index read below ih =>
    have inside : index < array.data.toList.length := by simpa using below
    rw [ih, List.drop_eq_getElem_cons inside]
    simp [ByteArray.get!, below]
  | case2 index read beyond =>
    rw [List.drop_eq_nil_of_le (by simpa using Nat.le_of_not_lt beyond), List.append_nil]

/-- The bytes of an encoded text are those of its characters. -/
theorem toList_toUTF8 (text : String) : text.toUTF8.toList = bytes text.toList := by
  have encoded : text.toUTF8 = text.toList.utf8Encode := String.utf8Encode_toList.symm
  rw [encoded]
  exact (toList_loop _ 0 []).trans List.toList_data_toByteArray

end Calculator.Text

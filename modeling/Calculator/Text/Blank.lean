/-!
# Blank characters

The characters with the Unicode property White_Space, as a table of ranges, and trimming by that
property. The table is wider than the blank characters of the core library, which are ASCII only.
-/

namespace Calculator.Text

/-- The ranges of code points with the property White_Space, each from its first to its last. -/
def blankRanges : List (Nat × Nat) :=
  [(0x9, 0xD), (0x20, 0x20), (0x85, 0x85), (0xA0, 0xA0), (0x1680, 0x1680), (0x2000, 0x200A),
   (0x2028, 0x2029), (0x202F, 0x202F), (0x205F, 0x205F), (0x3000, 0x3000)]

/-- Whether a character has the property White_Space. -/
def isBlank (c : Char) : Bool :=
  blankRanges.any fun range => range.1 ≤ c.toNat && c.toNat ≤ range.2

def trimStart (text : List Char) : List Char := text.dropWhile isBlank

def trimEnd (text : List Char) : List Char := (text.reverse.dropWhile isBlank).reverse

def trim (text : List Char) : List Char := trimEnd (trimStart text)

/-- A text that ends in a character that is not blank is left as it is. -/
theorem trimEnd_append_singleton {text : List Char} {c : Char} (visible : isBlank c = false) :
    trimEnd (text ++ [c]) = text ++ [c] := by
  simp [trimEnd, visible]

end Calculator.Text

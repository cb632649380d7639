import Calculator.Decimal.Shortest

/-!
# Floats as text

Both texts of a float show its shortest decimal. The plain one writes it with a point, however
long that gets, and leaves the point out of whole numbers. The pointed one always tells a float
from an integer: whole numbers end in `.0`, and numbers below `1e-4` or from `1e16` on are written
with an exponent.
-/

namespace Calculator.Decimal

/-- How a decimal is laid out. -/
structure Layout where
  /-- The least number of digits after the point, where no exponent is written. -/
  places : Nat
  /-- The exponents of the first digit, from the least to the greatest, for which no exponent is
  written; `none` stands for all. -/
  positional : Option (Int × Int)

/-- Without an exponent, and without a point where none is needed. -/
def Layout.plain : Layout := ⟨0, none⟩

/-- With a point or an exponent, and without an exponent from `1e-4` up to `1e16`. -/
def Layout.pointed : Layout := ⟨1, some (-4, 15)⟩

/-- Digits around a point, with zeros added after it up to the number of places asked for. -/
def positionalText (places : Nat) (digits : List Char) (exponent : Int) : List Char :=
  let behind := (-exponent).toNat
  let padded := List.replicate (behind + 1 - digits.length) '0' ++ digits
  let whole := padded.take (padded.length - behind) ++ List.replicate exponent.toNat '0'
  let fraction := padded.drop (padded.length - behind)
  let fraction := fraction ++ List.replicate (places - fraction.length) '0'
  if fraction.isEmpty then whole else whole ++ '.' :: fraction

/-- One digit before the point, the others after it, and the exponent of the first one. -/
def scientificText (digits : List Char) (exponent : Int) : List Char :=
  let fraction := digits.drop 1
  let mantissa := if fraction.isEmpty then digits else digits.take 1 ++ '.' :: fraction
  let sign := if exponent < 0 then ['-'] else []
  mantissa ++ 'e' :: sign ++ Nat.toDigits 10 exponent.natAbs

/-- The text of a decimal in a layout. -/
def Scaled.text (layout : Layout) (number : Scaled) : List Char :=
  let digits := Nat.toDigits 10 number.coefficient
  let leading := number.exponent + digits.length - 1
  let positional := match layout.positional with
    | none => true
    | some (least, greatest) => least ≤ leading && leading ≤ greatest
  if positional then positionalText layout.places digits number.exponent
  else scientificText digits leading

/-- The characters of a float in a layout. -/
def Shape.text (layout : Layout) : Shape → List Char
  | .notANumber => ['N', 'a', 'N']
  | .infinite negative => sign negative ++ ['i', 'n', 'f']
  | .finite negative magnitude =>
    let number := if magnitude.significand = 0 then ⟨0, 0⟩ else shortest magnitude
    sign negative ++ number.text layout
where
  /-- A minus sign, or nothing. -/
  sign (negative : Bool) : List Char := if negative then ['-'] else []

/-- The text of a float in a layout. -/
def text (layout : Layout) (value : Float) : String :=
  String.ofList ((Shape.ofBits value.toBits.toNat).text layout)

/-- The text of a float without an exponent: `1`, `0.5`, `-0`. -/
def plain (value : Float) : String := text .plain value

/-- The text of a float that shows that it is one: `1.0`, `0.5`, `-0.0`, `1e16`. -/
def pointed (value : Float) : String := text .pointed value

end Calculator.Decimal

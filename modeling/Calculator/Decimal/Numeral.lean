/-!
# Reading a float

A numeral is an optional sign and then either digits with at most one point among, before or after
them and an optional exponent, or one of the words `inf`, `infinity` and `nan` in any mixture of
cases. Nothing else may stand in the text, and no blank. The value is the float nearest to the
number that is written.
-/

namespace Calculator.Decimal

/-- The number that a list of digits stands for. -/
def digitsValue (digits : List Char) : Nat :=
  digits.foldl (fun value digit => 10 * value + (digit.toNat - '0'.toNat)) 0

/-- The number that the digits of an exponent stand for. Once it has five figures and is at least
`65536` any further digits are left out, and the float is zero or infinite all the same. -/
def exponentValue (digits : List Char) : Nat :=
  digits.foldl
    (fun value digit => if value < 65536 then 10 * value + (digit.toNat - '0'.toNat) else value) 0

/-- Takes a sign off the front of a text, and tells whether it is a minus sign. -/
def takeSign : List Char → Bool × List Char
  | '-' :: rest => (true, rest)
  | '+' :: rest => (false, rest)
  | text => (false, text)

/-- The exponent written in a whole text, zero if the text is empty. -/
def readExponent? : List Char → Option Int
  | [] => some 0
  | mark :: text =>
    if mark = 'e' ∨ mark = 'E' then
      let (negative, digits) := takeSign text
      if digits ≠ [] ∧ digits.all Char.isDigit then
        let value : Int := exponentValue digits
        some (if negative then -value else value)
      else none
    else none

/-- The digits after a point at the front of a text, and what comes after these. -/
def takeFraction : List Char → List Char × List Char
  | '.' :: text => text.span Char.isDigit
  | text => ([], text)

/-- The value of digits with an optional point and exponent. -/
def readDigits? (text : List Char) : Option Float :=
  let (whole, rest) := text.span Char.isDigit
  let (fraction, rest) := takeFraction rest
  if whole = [] ∧ fraction = [] then none
  else
    (readExponent? rest).map fun (written : Int) =>
      let exponent := written - (fraction.length : Int)
      Float.ofScientific (digitsValue (whole ++ fraction)) (exponent < 0) exponent.natAbs

/-- The float that a word stands for, its letters in either case. -/
def readWord? (text : List Char) : Option Float :=
  let word := text.map Char.toLower
  if word = ['i', 'n', 'f'] ∨ word = ['i', 'n', 'f', 'i', 'n', 'i', 't', 'y'] then
    some (Float.ofBits 0x7FF0000000000000)
  else if word = ['n', 'a', 'n'] then some (Float.ofBits 0x7FF8000000000000)
  else none

/-- The float that a text stands for, if it is a numeral. -/
def read? (text : String) : Option Float :=
  let (negative, body) := takeSign text.toList
  ((readDigits? body).or (readWord? body)).map fun value => if negative then -value else value

end Calculator.Decimal

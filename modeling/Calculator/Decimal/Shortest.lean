/-!
# The shortest decimal of a float

A finite float is known again from every real number that rounds to it. Among the decimals in that
interval this module picks one on the coarsest grid of multiples of a power of ten, so one with
the fewest digits, and among those the nearest to the float; of two equally near ones it takes the
larger. All comparisons are exact, on fractions of natural numbers.
-/

namespace Calculator.Decimal

/-- The magnitude `significand * 2 ^ exponent` of a finite float. -/
structure Magnitude where
  significand : Nat
  exponent : Int
  /-- Whether the next smaller magnitude is nearer than the next larger one. -/
  narrowBelow : Bool
deriving DecidableEq

/-- What a float is: not a number, or a sign with an infinite or a finite magnitude. -/
inductive Shape where
  | notANumber
  | infinite (negative : Bool)
  | finite (negative : Bool) (magnitude : Magnitude)
deriving DecidableEq

/-- Takes the 64 bits of a float apart: a sign, eleven bits of exponent and 52 of fraction. -/
def Shape.ofBits (bits : Nat) : Shape :=
  let negative := decide (bits / Nat.pow 2 63 % 2 = 1)
  let field : Nat := bits / Nat.pow 2 52 % Nat.pow 2 11
  let fraction : Nat := bits % Nat.pow 2 52
  if field = Nat.pow 2 11 - 1 then
    if fraction = 0 then .infinite negative else .notANumber
  else if field = 0 then
    .finite negative ⟨fraction, -1074, false⟩
  else
    let narrowBelow := decide (fraction = 0 ∧ 1 < field)
    .finite negative ⟨Nat.pow 2 52 + fraction, (field : Int) - 1075, narrowBelow⟩

/-- The interval of real numbers that round to one float, as fractions of one denominator. -/
structure Interval where
  low : Nat
  middle : Nat
  high : Nat
  denominator : Nat
  /-- Whether the two ends round to the float as well. -/
  closed : Bool

namespace Interval

/-- The numbers that round to a magnitude: half of the way to each neighbour, and just half of the
way when the significand is even, because then a tie goes to it. -/
def ofMagnitude (magnitude : Magnitude) : Interval :=
  let middle := 4 * magnitude.significand
  let low := if magnitude.narrowBelow then middle - 1 else middle - 2
  let high := middle + 2
  let closed := decide (magnitude.significand % 2 = 0)
  let shift := magnitude.exponent - 2
  let unit := Nat.pow 2 shift.toNat
  ⟨low * unit, middle * unit, high * unit, Nat.pow 2 (-shift).toNat, closed⟩

/-- The interval in units of a power of ten. -/
def inUnits (interval : Interval) (exponent : Int) : Interval :=
  let factor := Nat.pow 10 (-exponent).toNat
  { interval with
    low := interval.low * factor
    middle := interval.middle * factor
    high := interval.high * factor
    denominator := interval.denominator * Nat.pow 10 exponent.toNat }

/-- Whether a whole number lies in the interval. -/
def contains (interval : Interval) (n : Nat) : Bool :=
  let n := n * interval.denominator
  if interval.closed then interval.low ≤ n && n ≤ interval.high
  else interval.low < n && n < interval.high

/-- The whole number in the interval that is nearest to its middle, the larger of two. -/
def nearest? (interval : Interval) : Option Nat :=
  let below := interval.middle / interval.denominator
  let above := below + 1
  match interval.contains below, interval.contains above with
  | true, true =>
    if 2 * interval.middle < (below + above) * interval.denominator then some below else some above
  | true, false => some below
  | false, true => some above
  | false, false => none

/-- An exponent of ten whose power exceeds the middle of the interval, by a few places at most:
three tenths of its binary logarithm, rounded up. -/
def exponentAbove (interval : Interval) : Int :=
  ((interval.middle.log2 : Int) - interval.denominator.log2 + 1) * 30103 / 100000 + 2

end Interval

/-- The number `coefficient * 10 ^ exponent`. -/
structure Scaled where
  coefficient : Nat
  exponent : Int
deriving DecidableEq, Inhabited

/-- The shortest decimal that rounds to a magnitude. Seventeen digits are always enough, and the
search starts at most four places too high. -/
def shortest (magnitude : Magnitude) : Scaled :=
  let interval := Interval.ofMagnitude magnitude
  let start := interval.exponentAbove
  let found := (List.range 24).findSome? fun (places : Nat) =>
    let exponent := start - places
    (interval.inUnits exponent).nearest?.map fun coefficient => Scaled.mk coefficient exponent
  found.getD ⟨0, 0⟩

end Calculator.Decimal

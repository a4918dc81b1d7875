import UnitConversion.Numeric.Binary64

/-!
# Significant digits

A positive fraction rounded to a given count of significant decimal digits, and the shortest digits
from which a floating-point number is read back.
-/

namespace UnitConversion.Numeric

/-- The decimal digits of a number and the power of ten that its first digit counts. -/
structure Significand where
  /-- The digits, the first one not zero unless the number is. -/
  digits : List Nat
  /-- The exponent of the first digit. -/
  exponent : Int
deriving DecidableEq, Repr

/-- The decimal digits of a natural number. -/
def decimalDigits (number : Nat) : List Nat := (Nat.toDigits 10 number).map fun c => c.toNat - 48

/-- A fraction times a power of ten, as a fraction. -/
def scaleDecimal (numerator denominator : Nat) (exponent : Int) : Nat × Nat :=
  (numerator * Nat.pow 10 exponent.toNat, denominator * Nat.pow 10 (-exponent).toNat)

/-- The exponent of the first digit of a positive fraction. The counts of digits of its two parts
leave two candidates. -/
def decimalExponent (numerator denominator : Nat) : Int :=
  let upper : Int := (decimalDigits numerator).length - (decimalDigits denominator).length
  let (scaled, divisor) := scaleDecimal numerator denominator (-upper)
  if divisor ≤ scaled then upper else upper - 1

/-- A positive fraction rounded to `count` significant digits, a half to the even neighbour. -/
def significand (count numerator denominator : Nat) : Significand :=
  let exponent := decimalExponent numerator denominator
  let (scaled, divisor) := scaleDecimal numerator denominator (count - 1 - exponent)
  let rounded := roundQuotient scaled divisor
  let digits := decimalDigits rounded
  ⟨digits.take count, exponent + (digits.length - count)⟩

/-- Remove the zeros at the end, but not the first digit. -/
def Significand.trimZeros (value : Significand) : Significand :=
  match value.digits with
  | [] => value
  | first :: rest => { value with digits := first :: (rest.reverse.dropWhile (· == 0)).reverse }

/-- The number that digits write when the last of them counts the given power of ten. -/
def decimalFraction (coefficient : Nat) (exponent : Int) : Nat × Nat :=
  scaleDecimal coefficient 1 exponent

/-- The shortest digits that read back as the positive fraction's number, when `count` digits are
enough: of the two neighbours with so many digits the nearer one that reads back. -/
def shortestWith? (bits numerator denominator count : Nat) : Option Significand :=
  let exponent := decimalExponent numerator denominator
  let step := exponent - (count - 1)
  let (scaled, divisor) := scaleDecimal numerator denominator (-step)
  let below := scaled / divisor
  let readsBack (coefficient : Nat) : Bool :=
    let (numerator, denominator) := decimalFraction coefficient step
    nearestBits numerator denominator == bits
  let chosen :=
    match readsBack below, readsBack (below + 1) with
    | true, true => some (if 2 * (scaled % divisor) ≤ divisor then below else below + 1)
    | true, false => some below
    | false, true => some (below + 1)
    | false, false => none
  chosen.map fun coefficient =>
    let digits := decimalDigits coefficient
    ⟨digits, step + (digits.length - 1)⟩

/-- The shortest digits that read back as the number nearest to a positive fraction. Seventeen
digits are always enough. -/
def shortest (numerator denominator : Nat) : Significand :=
  let bits := nearestBits numerator denominator
  let counts := List.range' 1 16
  ((counts.findSome? (shortestWith? bits numerator denominator)).getD
    (significand 17 numerator denominator)).trimZeros

end UnitConversion.Numeric

/-!
# Floating-point numbers as exact fractions

A finite number is a sign, a whole mantissa and a power of two. The other direction rounds a
fraction to the nearest number, in exact arithmetic on naturals; decimals are read and powers are
taken with it.
-/

namespace UnitConversion.Numeric

/-- The number plus or minus `mantissa * 2 ^ exponent`. -/
structure Dyadic where
  /-- The sign bit: true for a minus. -/
  negative : Bool
  /-- The whole mantissa. -/
  mantissa : Nat
  /-- The power of two. -/
  exponent : Int
deriving DecidableEq, Repr

/-- A finite number taken apart; nothing for an infinity or no number. -/
def dyadic? (x : Float) : Option Dyadic :=
  let bits := x.toBits.toNat
  let negative := decide (Nat.pow 2 63 ≤ bits)
  let field : Nat := bits / Nat.pow 2 52 % Nat.pow 2 11
  let fraction : Nat := bits % Nat.pow 2 52
  if field = 2047 then none
  else if field = 0 then some ⟨negative, fraction, -1074⟩
  else some ⟨negative, Nat.pow 2 52 + fraction, (field : Int) - 1075⟩

/-- The fraction `numerator / denominator` rounded to a whole number, a half to the even one. -/
def roundQuotient (numerator denominator : Nat) : Nat :=
  let quotient := numerator / denominator
  let rest := 2 * (numerator % denominator)
  let up := if rest = denominator then quotient % 2 == 1 else denominator < rest
  if up then quotient + 1 else quotient

/-- Rounding gives one of the two whole numbers around a fraction. -/
theorem roundQuotient_eq_or_eq (numerator denominator : Nat) :
    roundQuotient numerator denominator = numerator / denominator ∨
      roundQuotient numerator denominator = numerator / denominator + 1 := by
  unfold roundQuotient
  dsimp only
  split <;> split <;> simp

/-- A fraction times a power of two, as a fraction. -/
def scaleBinary (numerator denominator : Nat) (exponent : Int) : Nat × Nat :=
  (numerator * Nat.pow 2 exponent.toNat, denominator * Nat.pow 2 (-exponent).toNat)

/-- The exponent of the last mantissa bit of the number nearest to a positive fraction: the quotient
by its power of two has 53 bits, or the exponent is the least there is. -/
def lastBitExponent (numerator denominator : Nat) : Int :=
  let estimate := max ((numerator.log2 : Int) - denominator.log2 - 52) (-1074)
  let (scaled, divisor) := scaleBinary numerator denominator (-estimate)
  if scaled / divisor < Nat.pow 2 52 then max (estimate - 1) (-1074) else estimate

/-- The bits of infinity. -/
def infinityBits : Nat := 2047 * Nat.pow 2 52

/-- A positive fraction in units of the last mantissa bit, as a fraction. -/
def inLastBits (numerator denominator : Nat) : Nat × Nat :=
  scaleBinary numerator denominator (-lastBitExponent numerator denominator)

/-- The bits of the number with the last mantissa bit of a positive fraction and with the given
count of units of it; infinity when it is too large. -/
def bitsOfCount (numerator denominator count : Nat) : Nat :=
  min ((lastBitExponent numerator denominator + 1074).toNat * Nat.pow 2 52 + count) infinityBits

/-- The bits of the non-negative number nearest to a fraction; infinity when it is too large. -/
def nearestBits (numerator denominator : Nat) : Nat :=
  if numerator = 0 then 0
  else
    let (scaled, divisor) := inLastBits numerator denominator
    bitsOfCount numerator denominator (roundQuotient scaled divisor)

/-- The number with a sign and the bits of its magnitude. -/
def ofMagnitude (negative : Bool) (bits : Nat) : Float :=
  Float.ofBits (UInt64.ofNat (if negative then Nat.pow 2 63 + bits else bits))

/-- The number nearest to plus or minus a fraction. -/
def nearest (negative : Bool) (numerator denominator : Nat) : Float :=
  ofMagnitude negative (nearestBits numerator denominator)

/-- Plus or minus infinity. -/
def infinity (negative : Bool) : Float := ofMagnitude negative infinityBits

/-- The value that is no number. -/
def notANumber : Float := Float.ofBits 0x7ff8000000000000

/-- The sign bit of a number. -/
def isNegative (x : Float) : Bool := decide (Nat.pow 2 63 ≤ x.toBits.toNat)

end UnitConversion.Numeric

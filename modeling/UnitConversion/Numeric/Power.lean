import UnitConversion.Numeric.Binary64

/-!
# Whole powers

The power of a number with a whole exponent is one of the two numbers around the exact power,
however the machine computes its own (`powerBits_eq_or_eq`). It is the nearer one, unless the exact
power is close to their middle: there the machine's own power says which.
-/

namespace UnitConversion.Numeric

/-- A positive fraction is no further from the middle between the two numbers around it than a
sixteenth of their distance. -/
def nearMiddle (numerator denominator : Nat) : Bool :=
  let (scaled, divisor) := inLastBits numerator denominator
  let rest := 2 * (scaled % divisor)
  7 * divisor ≤ 8 * rest && 8 * rest ≤ 9 * divisor

/-- The bits of one of the two numbers around a positive fraction: the larger one if a number that
is given beside the fraction reaches it. -/
def bitsBeside (given : Float) (numerator denominator : Nat) : Nat :=
  let (scaled, divisor) := inLastBits numerator denominator
  let below := bitsOfCount numerator denominator (scaled / divisor)
  if given.toBits.toNat % Nat.pow 2 63 ≤ below then below
  else bitsOfCount numerator denominator (scaled / divisor + 1)

/-- The bits of the magnitude of a power, given the exact magnitude and the machine's own power. -/
def powerBits (own : Float) (numerator denominator : Nat) : Nat :=
  if nearMiddle numerator denominator then bitsBeside own numerator denominator
  else nearestBits numerator denominator

/-- Whatever the machine's own power is, the magnitude is one of the two numbers around the exact
one. -/
theorem powerBits_eq_or_eq (own : Float) {numerator denominator : Nat} (positive : numerator ≠ 0) :
    let (scaled, divisor) := inLastBits numerator denominator
    powerBits own numerator denominator =
        bitsOfCount numerator denominator (scaled / divisor) ∨
      powerBits own numerator denominator =
        bitsOfCount numerator denominator (scaled / divisor + 1) := by
  simp only [powerBits, bitsBeside, nearestBits, positive, if_false]
  split
  · split
    · exact .inl rfl
    · exact .inr rfl
  · rcases roundQuotient_eq_or_eq (inLastBits numerator denominator).1
      (inLastBits numerator denominator).2 with down | up
    · exact .inl (by rw [down])
    · exact .inr (by rw [up])

/-- `base` to the whole power `exponent`. -/
def power (base : Float) (exponent : Nat) : Float :=
  let odd := exponent % 2 == 1
  match dyadic? base with
  | some value =>
    let (numerator, denominator) :=
      scaleBinary (value.mantissa.pow exponent) 1 (value.exponent * exponent)
    ofMagnitude (value.negative && odd)
      (powerBits (base.pow exponent.toFloat) numerator denominator)
  | none =>
    if exponent = 0 then 1.0
    else if base.isNaN then base
    else infinity (isNegative base && odd)

end UnitConversion.Numeric

import UnitConversion.Error
import UnitConversion.MeasureUnit
import UnitConversion.Numeric.Power

/-!
# Converting values

A value goes from its unit into reference units, is shifted between the zero points, and goes from
reference units into the unit asked for. The steps are written for any arithmetic: values are
converted in floating-point numbers, and laws about the steps can be stated over exact ones.
-/

namespace UnitConversion

/-- A unit as it stands in a request: with a factor for its metric prefix, and under the name that
was used for it. -/
structure ResolvedUnit where
  /-- The unit. -/
  unit : MeasureUnit
  /-- The factor of the metric prefix; one without a prefix. -/
  multiplier : Float
  /-- The metric prefix as it was written; empty without one. -/
  prefixText : String
  /-- The name that was used; empty for the primary name. -/
  typedName : String

/-- The name to show for the unit. -/
def ResolvedUnit.displayName (resolved : ResolvedUnit) : String :=
  resolved.prefixText ++
    (if resolved.typedName.isEmpty then resolved.unit.name else resolved.typedName)

/-- The operations that conversions are made of. -/
class Arithmetic (α : Type) extends Add α, Sub α, Mul α, Div α where
  /-- The number one. -/
  one : α
  /-- Whole powers. -/
  power : α → Nat → α

instance : Arithmetic Float where
  one := 1.0
  power := Numeric.power

/-- What a conversion needs to know of a unit with its prefix. -/
structure Scale (α : Type) where
  /-- The factor of the metric prefix. -/
  multiplier : α
  /-- How many reference units make one of the unit. -/
  factor : α
  /-- The reference value at the unit's zero. -/
  offset : α
  /-- The exponent of the metric prefix. -/
  dimensions : Nat
  /-- The unit counts the reciprocal of what the reference unit counts. -/
  inverse : Bool

namespace Scale

/-- The scale of a resolved unit. -/
def ofResolved (resolved : ResolvedUnit) : Scale Float :=
  { multiplier := resolved.multiplier
    factor := resolved.unit.factor
    offset := resolved.unit.offset
    dimensions := resolved.unit.dimensions
    inverse := resolved.unit.inverse }

variable {α : Type} [Arithmetic α]

/-- The factor of the metric prefix for the dimensions of the unit. -/
def prefixPower (scale : Scale α) : α := Arithmetic.power scale.multiplier scale.dimensions

/-- The reciprocal, for an inverse unit. -/
def orient (scale : Scale α) (value : α) : α :=
  if scale.inverse then Arithmetic.one / value else value

end Scale

/-- The intermediate values of a conversion, in the order in which they are worked out. -/
structure Steps (α : Type) where
  /-- The factor of the source's prefix. -/
  sourcePower : α
  /-- The value without the source's prefix. -/
  scaled : α
  /-- That value, or its reciprocal for an inverse source. -/
  oriented : α
  /-- In reference units, from the source's zero point. -/
  counted : α
  /-- The distance of the two zero points. -/
  shift : α
  /-- In reference units, from the target's zero point. -/
  shifted : α
  /-- In target units, if the target is not inverse. -/
  divided : α
  /-- That value, or its reciprocal for an inverse target. -/
  turned : α
  /-- The factor of the target's prefix. -/
  targetPower : α
  /-- The converted value. -/
  result : α

/-- All values of a conversion. -/
def Steps.toList {α : Type} (steps : Steps α) : List α :=
  [steps.sourcePower, steps.scaled, steps.oriented, steps.counted, steps.shift, steps.shifted,
   steps.divided, steps.turned, steps.targetPower, steps.result]

/-- The steps that convert a value. -/
def conversionSteps {α : Type} [Arithmetic α] (source target : Scale α) (value : α) : Steps α :=
  let sourcePower := source.prefixPower
  let scaled := value * sourcePower
  let oriented := source.orient scaled
  let counted := oriented * source.factor
  let shift := source.offset - target.offset
  let shifted := counted + shift
  let divided := shifted / target.factor
  let turned := target.orient divided
  let targetPower := target.prefixPower
  { sourcePower, scaled, oriented, counted, shift, shifted, divided, turned, targetPower
    result := turned / targetPower }

namespace Conversion

/-- Two units measure the same quantity, so that values convert between them. -/
def compatible (source target : ResolvedUnit) : Bool :=
  source.unit.quantity == target.unit.quantity

/-- Refuse units of different quantities. -/
def checkCompatible (source target : ResolvedUnit) : Except ConversionError Unit :=
  if compatible source target then .ok ()
  else
    .error (.incompatible source.unit.quantity.name target.unit.quantity.name
      (some source.displayName) (some target.displayName))

/-- Source and target are the same unit with the same prefix, so that values stay as they are. -/
def isIdentity (source target : ResolvedUnit) : Bool :=
  source.unit.sameAs target.unit && source.multiplier == target.multiplier

/-- The converted value, without a check. -/
def apply (source target : ResolvedUnit) (value : Float) : Float :=
  (conversionSteps (.ofResolved source) (.ofResolved target) value).result

/-- The failure of a value that has no finite result. -/
def noFiniteResult (source target : ResolvedUnit) (value : Float) : ConversionError :=
  .invalidValue (Numeric.shortestText value)
    (some s!"no finite result converting {source.displayName} to {target.displayName}")

/-- Convert values. The first value that is not finite is refused, then units of different
quantities, then the first value without a finite result. -/
def convertValues (values : List Float) (source target : ResolvedUnit) :
    Except ConversionError (List Float) :=
  match values.find? fun value => !value.isFinite with
  | some value => .error (.invalidValue (Numeric.shortestText value) (some "not finite"))
  | none => do
    checkCompatible source target
    if isIdentity source target then return values
    match values.find? fun value => !(apply source target value).isFinite with
    | some value => throw (noFiniteResult source target value)
    | none => return values.map (apply source target)

/-- Convert one value. -/
def convert (value : Float) (source target : ResolvedUnit) : Except ConversionError Float :=
  (convertValues [value] source target).map fun results => results.headD value

end Conversion

end UnitConversion

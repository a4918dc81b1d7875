import UnitConversion.Numeric.Numeral
import UnitConversion.Quantity
import UnitConversion.Text.Quoted

/-!
# Units of measure

A unit has a primary name and aliases, and is described against the reference unit of its quantity:
how many reference units make one of it, which reference value its zero stands for, and whether it
counts the reciprocal.
-/

namespace UnitConversion

/-- The greatest exponent of a metric prefix. -/
def maxDimensions : Nat := 255

/-- A unit of measure. -/
structure MeasureUnit where
  /-- The primary name first, then the aliases. -/
  names : List String
  /-- What the unit measures. -/
  quantity : Quantity
  /-- How many reference units make one of this unit. -/
  factor : Float
  /-- The reference value at this unit's zero. -/
  offset : Float
  /-- The exponent that is applied to metric prefixes. -/
  dimensions : Nat
  /-- The unit counts the reciprocal of what the reference unit counts. -/
  inverse : Bool
  /-- There is a primary name. -/
  names_ne_nil : names ≠ []
  /-- No name occurs twice. -/
  names_nodup : names.Nodup
  /-- The factor is a positive finite number. -/
  factor_valid : factor.isFinite = true ∧ 0 < factor
  /-- The offset is a finite number. -/
  offset_finite : offset.isFinite = true
  /-- Prefixes have an exponent of one at least. -/
  dimensions_valid : 1 ≤ dimensions ∧ dimensions ≤ maxDimensions

/-- Why a description describes no unit. -/
inductive UnitDefect
  /-- There is no name. -/
  | nameless
  /-- A name occurs twice. -/
  | duplicateNames (names : List String)
  /-- The factor is not positive or not finite. -/
  | invalidFactor (factor : Float)
  /-- The offset is not finite. -/
  | invalidOffset (offset : Float)
  /-- The exponent of prefixes is out of range. -/
  | invalidDimensions (dimensions : Int)

/-- The defect in words. -/
def UnitDefect.message : UnitDefect → String
  | nameless => "a unit needs at least one name"
  | duplicateNames names =>
    "duplicate names in unit: (" ++ ", ".intercalate (names.map Text.quoted) ++ ")"
  | invalidFactor factor =>
    s!"conversion factor must be positive and finite, got {Numeric.shortestText factor}"
  | invalidOffset offset => s!"zero offset must be finite, got {Numeric.shortestText offset}"
  | invalidDimensions dimensions =>
    s!"dimensions must be within 1..{maxDimensions}, got {dimensions}"

namespace MeasureUnit

/-- The unit of the given description. The first defect in the order names, factor, offset,
dimensions is reported. -/
def make (names : List String) (quantity : Quantity) (factor offset : Float) (dimensions : Int)
    (inverse : Bool) : Except UnitDefect MeasureUnit :=
  if names_ne_nil : names ≠ [] then
    if names_nodup : names.Nodup then
      if factor_valid : factor.isFinite = true ∧ 0 < factor then
        if offset_finite : offset.isFinite = true then
          if bounds : 1 ≤ dimensions ∧ dimensions ≤ maxDimensions then
            .ok { names, quantity, factor, offset, inverse, names_ne_nil, names_nodup, factor_valid,
                  offset_finite, dimensions := dimensions.toNat
                  dimensions_valid := by omega }
          else .error (.invalidDimensions dimensions)
        else .error (.invalidOffset offset)
      else .error (.invalidFactor factor)
    else .error (.duplicateNames names)
  else .error .nameless

/-- The primary name. -/
def name (unit : MeasureUnit) : String := unit.names.head unit.names_ne_nil

/-- The names after the primary one. -/
def aliases (unit : MeasureUnit) : List String := unit.names.tail

/-- The unit has the given name. -/
def hasName (unit : MeasureUnit) (name : String) : Bool := unit.names.contains name

/-- The unit with only those names that satisfy a condition, if any does. -/
def restrictNames? (unit : MeasureUnit) (keep : String → Bool) : Option MeasureUnit :=
  if h : unit.names.filter keep = [] then none
  else
    some { unit with
      names := unit.names.filter keep
      names_ne_nil := h
      names_nodup := unit.names_nodup.filter keep }

/-- Two units have the same description. Numbers are compared by value. -/
def sameAs (left right : MeasureUnit) : Bool :=
  left.names == right.names && left.quantity == right.quantity && left.factor == right.factor &&
    left.offset == right.offset && left.dimensions == right.dimensions &&
    left.inverse == right.inverse

end MeasureUnit

end UnitConversion

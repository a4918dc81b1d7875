import UnitConversion.MeasureUnit
import UnitConversion.Numeric.Literal

/-!
# Settings of a unit

A unit is declared by a header and lines that each set one of six fields. The value of a field is
checked when its line is read.
-/

namespace UnitConversion.UnitsFile

open Text

/-- A field of a unit declaration. -/
inductive Field
  | aliases | quantity | factor | zeroPoint | dimensions | inverse
deriving DecidableEq, Repr

/-- The name of the field. -/
def Field.name : Field → String
  | aliases => "aliases"
  | quantity => "type"
  | factor => "conv_factor"
  | zeroPoint => "zero_point"
  | dimensions => "dimensions"
  | inverse => "inverse"

/-- All fields. -/
def Field.all : List Field := [aliases, quantity, factor, zeroPoint, dimensions, inverse]

/-- The fields without which there is no unit. -/
def Field.required : List Field := [quantity, factor]

/-- The field that a key sets. The zero point has a second key. -/
def Field.ofKey? (key : String) : Option Field :=
  if key = "offset" then some .zeroPoint else Field.all.find? (·.name == key)

/-- A field with its value. -/
inductive Setting
  | aliases (names : List String)
  | quantity (quantity : Quantity)
  | factor (factor : Float)
  | zeroPoint (offset : Float)
  | dimensions (dimensions : Int)
  | inverse (inverse : Bool)

/-- The field that a setting sets. -/
def Setting.field : Setting → Field
  | aliases _ => .aliases
  | quantity _ => .quantity
  | factor _ => .factor
  | zeroPoint _ => .zeroPoint
  | dimensions _ => .dimensions
  | inverse _ => .inverse

/-- Why a value is refused. -/
inductive ValueFault
  /-- The field takes one value. -/
  | count (key : String) (values : Nat)
  /-- There is no value. -/
  | absent (key : String)
  /-- The value is no number. -/
  | notANumber (key text : String)
  /-- The value is not finite. -/
  | notFinite (key text : String)
  /-- No quantity has the name. -/
  | unknownQuantity (failure : UnknownQuantity)
  /-- The factor is not positive. -/
  | notPositive (key : String) (factor : Float)
  /-- The value is no integer. -/
  | notAnInteger (key text : String)
  /-- The exponent of prefixes is out of range. -/
  | outOfRange (key : String) (dimensions : Int)

/-- The fault in words. -/
def ValueFault.message : ValueFault → String
  | count key values => s!"'{key}' takes one value, got {values}"
  | absent key => s!"'{key}' has no value"
  | notANumber key text => s!"'{key}' expects a number, got '{text}'"
  | notFinite key text => s!"'{key}' must be finite, got '{text}'"
  | unknownQuantity failure => failure.message
  | notPositive key factor =>
    s!"'{key}' must be positive, got {Numeric.roundedText 6 factor}"
  | notAnInteger key text => s!"'{key}' expects an integer, got '{text}'"
  | outOfRange key dimensions =>
    s!"'{key}' must be within 1..{maxDimensions}, got {dimensions}"

/-- What comes of reading a value. -/
inductive Reading (α : Type)
  /-- The value. -/
  | accepted (value : α)
  /-- A fault; the line is ignored. -/
  | refused (fault : ValueFault)
  /-- An integer too long to be read; the whole file is given up. -/
  | overlong (failure : TooManyDigits)

/-- The only value. -/
def single (key : String) : List String → Except ValueFault String
  | [value] => if value.isEmpty then .error (.absent key) else .ok value
  | values => .error (.count key values.length)

/-- The only value as a finite number. -/
def finite (key : String) (values : List String) : Except ValueFault Float := do
  let text ← single key values
  match Numeric.readNumber text with
  | .error _ => throw (.notANumber key text)
  | .ok number => if number.isFinite then pure number else throw (.notFinite key text)

/-- The only value as the name of a quantity. -/
def quantityValue (key : String) (values : List String) : Except ValueFault Quantity := do
  let text ← single key values
  match Quantity.ofName text with
  | .error failure => throw (.unknownQuantity failure)
  | .ok quantity => pure quantity

/-- The only value as a positive finite number. -/
def positive (key : String) (values : List String) : Except ValueFault Float := do
  let factor ← finite key values
  if factor ≤ 0 then throw (.notPositive key factor) else pure factor

/-- The only value as the digits of an integer. -/
def integerText (key : String) (values : List String) : Except ValueFault String := do
  let text ← single key values
  if isInteger text.toList then pure text else throw (.notAnInteger key text)

/-- A value that was read, as a setting. -/
def Reading.ofExcept {α : Type} (make : α → Setting) : Except ValueFault α → Reading Setting
  | .ok value => .accepted (make value)
  | .error fault => .refused fault

/-- Read the exponent of prefixes from its digits. -/
def readDimensions (limit : DigitLimit) (key text : String) : Reading Setting :=
  match intOfDigits limit text.toList with
  | .error failure => .overlong failure
  | .ok dimensions =>
    if 1 ≤ dimensions ∧ dimensions ≤ maxDimensions then .accepted (.dimensions dimensions)
    else .refused (.outOfRange key dimensions)

/-- Read the values of a field, given under the key. -/
def Field.read (limit : DigitLimit) (field : Field) (key : String) (values : List String) :
    Reading Setting :=
  match field with
  | aliases => .accepted (.aliases (values.filter fun value => !value.isEmpty))
  | quantity => .ofExcept .quantity (quantityValue key values)
  | factor => .ofExcept .factor (positive key values)
  | zeroPoint => .ofExcept .zeroPoint (finite key values)
  | dimensions =>
    match integerText key values with
    | .error fault => .refused fault
    | .ok text => readDimensions limit key text
  | inverse => .ofExcept (fun number => .inverse (number != 0)) (finite key values)

end UnitConversion.UnitsFile

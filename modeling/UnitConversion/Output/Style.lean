import UnitConversion.Numeric.Numeral
import UnitConversion.Text.Blank
import UnitConversion.Text.Case

/-!
# How results are written

The three styles of a result, and the count of significant digits that numbers are written with.
-/

namespace UnitConversion

/-- A style of writing results. -/
inductive OutputStyle
  /-- The number alone. -/
  | simple
  /-- The number and its unit. -/
  | descriptive
  /-- The whole conversion. -/
  | verbose
deriving DecidableEq, Repr

/-- A name that no style has. -/
structure UnknownStyle where
  /-- The name as it was given. -/
  name : String
deriving DecidableEq, Repr

/-- The failure in words. -/
def UnknownStyle.message (failure : UnknownStyle) : String :=
  s!"unknown output format: '{failure.name}'"

namespace OutputStyle

/-- All styles. -/
def all : List OutputStyle := [simple, descriptive, verbose]

/-- The full name of the style. -/
def name : OutputStyle → String
  | simple => "simple"
  | descriptive => "descriptive"
  | verbose => "verbose"

/-- The style of a full name. -/
def ofFullName? (name : String) : Option OutputStyle := all.find? (·.name == name)

/-- The style of a one-letter name; the verbose one has two of them. -/
def ofLetter? (name : String) : Option OutputStyle :=
  if name = "s" then some simple
  else if name = "d" then some descriptive
  else if name = "v" ∨ name = "l" then some verbose
  else none

/-- The style of the given name; blanks around the name and its case do not matter. -/
def ofName (name : String) : Except UnknownStyle OutputStyle :=
  let key := Text.lower (Text.trim name)
  match (ofFullName? key).or (ofLetter? key) with
  | some style => .ok style
  | none => .error ⟨name⟩

end OutputStyle

/-- The most significant digits that a number is written with. -/
def maxPrecision : Nat := 17

/-- A count of significant digits. -/
structure Precision where
  /-- The count. -/
  digits : Nat
  /-- There is at least one digit, and no more than a number can need. -/
  valid : 1 ≤ digits ∧ digits ≤ maxPrecision

/-- A count of digits out of range. -/
structure InvalidPrecision where
  /-- The count as it was given. -/
  digits : Int
deriving DecidableEq, Repr

/-- The failure in words. -/
def InvalidPrecision.message (failure : InvalidPrecision) : String :=
  s!"precision must be within 1..{maxPrecision}, got {failure.digits}"

namespace Precision

/-- The precision unless another one is asked for. -/
def standard : Precision := ⟨10, by decide⟩

/-- The precision of the given count. -/
def ofInt (digits : Int) : Except InvalidPrecision Precision :=
  if h : 1 ≤ digits ∧ digits ≤ maxPrecision then .ok ⟨digits.toNat, by omega⟩
  else .error ⟨digits⟩

end Precision

/-- A number with the given count of significant digits, without zeros at the end. A zero has no
sign. -/
def formatNumber (precision : Precision) (value : Float) : String :=
  let text := Numeric.roundedText precision.digits value
  if text = "-0" then "0" else text

end UnitConversion

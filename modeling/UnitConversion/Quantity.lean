import UnitConversion.Text.Blank
import UnitConversion.Text.Case

/-!
# Quantities

The physical quantities that units measure. Only units of one quantity convert into each other.
-/

namespace UnitConversion

/-- A physical quantity. -/
inductive Quantity
  | length | volume | area | energy | power | mass | force | torque | speed | pressure
  | temperature | fuelEconomy
deriving DecidableEq, Repr

/-- A name that no quantity has. -/
structure UnknownQuantity where
  /-- The name as it was given. -/
  name : String
deriving DecidableEq, Repr

/-- The failure in words. -/
def UnknownQuantity.message (failure : UnknownQuantity) : String :=
  s!"no such unit type: '{failure.name}'"

namespace Quantity

/-- All quantities. -/
def all : List Quantity :=
  [length, volume, area, energy, power, mass, force, torque, speed, pressure, temperature,
   fuelEconomy]

/-- The name of the quantity in units files. -/
def name : Quantity → String
  | length => "length"
  | volume => "volume"
  | area => "area"
  | energy => "energy"
  | power => "power"
  | mass => "mass"
  | force => "force"
  | torque => "torque"
  | speed => "speed"
  | pressure => "pressure"
  | temperature => "temperature"
  | fuelEconomy => "fuel economy"

/-- The quantity of the given name; blanks around the name and its case do not matter. -/
def ofName (name : String) : Except UnknownQuantity Quantity :=
  match all.find? (·.name == Text.lower (Text.trim name)) with
  | some quantity => .ok quantity
  | none => .error ⟨name⟩

/-- Each quantity is found by its name. -/
theorem ofName_name (quantity : Quantity) : ofName quantity.name = .ok quantity := by
  have hall : ∀ quantity ∈ all,
      all.find? (·.name == Text.lower (Text.trim quantity.name)) = some quantity := by
    decide +kernel
  unfold ofName
  rw [hall quantity (by cases quantity <;> decide)]

end Quantity

end UnitConversion

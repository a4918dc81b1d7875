import UnitConversion.Error
import UnitConversion.MeasureUnit

/-!
# What is recalled

The value and the units that were used last. Each word that names one replaces what its place held,
also when the conversion that it is part of fails later.
-/

namespace UnitConversion

/-- A unit that can be recalled, and the name by which it was found. -/
structure RecalledUnit where
  /-- The unit. -/
  unit : MeasureUnit
  /-- The name by which it was found. -/
  typedName : String

/-- The name to show for the unit. -/
def RecalledUnit.displayName (recalled : RecalledUnit) : String :=
  if recalled.typedName.isEmpty then recalled.unit.name else recalled.typedName

/-- The value and the units that were used last. -/
structure Recall where
  /-- The value used last. -/
  value : Option Float
  /-- The unit converted from last. -/
  input : Option RecalledUnit
  /-- The unit converted to last. -/
  output : Option RecalledUnit

namespace Recall

/-- Nothing was used yet. -/
def empty : Recall := ⟨none, none, none⟩

/-- The unit that a place holds. The place of the value holds none. -/
def unitAt (memory : Recall) : Slot → Except ConversionError (Option RecalledUnit)
  | .input => .ok memory.input
  | .output => .ok memory.output
  | .value => .error (.holdsNoUnit .value)

/-- Remember a unit in a place, under its primary name unless another name is given. -/
def remember (memory : Recall) (slot : Slot) (unit : MeasureUnit) (typedName : String) :
    Except ConversionError Recall :=
  let recalled : RecalledUnit := ⟨unit, if typedName.isEmpty then unit.name else typedName⟩
  match slot with
  | .input => .ok { memory with input := some recalled }
  | .output => .ok { memory with output := some recalled }
  | .value => .error (.holdsNoUnit .value)

/-- Remember a value. -/
def rememberValue (memory : Recall) (value : Float) : Recall := { memory with value := some value }

end Recall

end UnitConversion

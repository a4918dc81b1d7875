import UnitConversion.MeasureUnit

/-!
# The registry of units

The known units in the order in which they were added. Every name belongs to one unit: the first one
that brought it. A later unit keeps the names that are still free, and one without any is left out.
-/

namespace UnitConversion

/-- The known units, in the order in which they were added. -/
structure Registry where
  /-- The units. -/
  units : List MeasureUnit

namespace Registry

/-- The registry without units. -/
def empty : Registry := ⟨[]⟩

/-- The unit of the given name; case matters. -/
def lookup (registry : Registry) (name : String) : Option MeasureUnit :=
  registry.units.find? (·.hasName name)

/-- Some unit has the given name. -/
def contains (registry : Registry) (name : String) : Bool := (registry.lookup name).isSome

/-- The names of a unit that are already taken. -/
def conflicts (registry : Registry) (unit : MeasureUnit) : List String :=
  unit.names.filter registry.contains

/-- Add a unit under those of its names that are free. Gives the unit as it is stored, or nothing
when all its names were taken. -/
def add (registry : Registry) (unit : MeasureUnit) : Registry × Option MeasureUnit :=
  match unit.restrictNames? fun name => !registry.contains name with
  | none => (registry, none)
  | some stored => (⟨registry.units ++ [stored]⟩, some stored)

/-- The units of a quantity. -/
def ofQuantity (registry : Registry) (quantity : Quantity) : List MeasureUnit :=
  registry.units.filter fun unit => unit.quantity == quantity

/-- The quantities of the units, each once, in the order of their first units. -/
def quantities (registry : Registry) : List Quantity :=
  registry.units.foldl
    (fun seen unit => if seen.contains unit.quantity then seen else seen ++ [unit.quantity]) []

/-- The line of a listing that shows a unit. -/
def listingLine (unit : MeasureUnit) : String :=
  if unit.aliases.isEmpty then "  " ++ unit.name
  else "  " ++ unit.name ++ " (" ++ ", ".intercalate unit.aliases ++ ")"

/-- The part of a listing that shows the units of a quantity. -/
def listingSection (registry : Registry) (quantity : Quantity) : List String :=
  (quantity.name ++ ":") :: (registry.ofQuantity quantity).map listingLine

/-- The lines that list the units by quantity: all of them, or those of the quantity of the given
name. -/
def listing (registry : Registry) (quantity : Option String) :
    Except UnknownQuantity (List String) :=
  match quantity with
  | none => .ok (registry.quantities.flatMap registry.listingSection)
  | some name =>
    (Quantity.ofName name).map fun wanted =>
      (registry.quantities.filter (· == wanted)).flatMap registry.listingSection

end Registry

end UnitConversion

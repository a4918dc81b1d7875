/-!
# What can go wrong in a conversion

Each way in which a request can fail, with what a message about it tells. None of them ends a
session.
-/

namespace UnitConversion

/-- One of the three places of a conversion request. -/
inductive Slot
  /-- The value. -/
  | value
  /-- The unit converted from. -/
  | input
  /-- The unit converted to. -/
  | output
deriving DecidableEq, Repr

namespace Slot

/-- The name of the place. -/
def name : Slot → String
  | value => "value"
  | input => "input"
  | output => "output"

/-- The place of the given name. -/
def ofName? (name : String) : Option Slot := [value, input, output].find? (·.name == name)

end Slot

/-- A failed conversion request. -/
inductive ConversionError
  /-- A failure that is described by its detail alone. -/
  | failed (detail : Option String)
  /-- A value that is no number, is not finite, or has no finite result. -/
  | invalidValue (token : String) (reason : Option String)
  /-- A unit name that nothing is known about, and the place where it stood. -/
  | unknownUnit (name : String) (slot : Option String)
  /-- A recall of something that was never given. -/
  | recallUnset (slot : String)
  /-- A unit expression that cannot be read. -/
  | malformedExpression (token : String) (detail : Option String)
  /-- A letter after the underscore that is no metric prefix. -/
  | unknownMetricPrefix (letter token : String)
  /-- A unit expression without a name. -/
  | nameMissing (token : String) (detail : Option String)
  /-- A recall followed by a name. -/
  | nameNotAllowed (token : String) (detail : Option String)
  /-- Units of different quantities. -/
  | incompatible (inputType outputType : String) (inputName outputName : Option String)
  /-- A unit was asked of a place that holds none. -/
  | holdsNoUnit (slot : Slot)
deriving DecidableEq, Repr

namespace ConversionError

/-- What kind of failure it is, in words. -/
def description : ConversionError → String
  | failed _ => "conversion failed"
  | invalidValue _ _ => "out of range or unrecognized value"
  | unknownUnit _ slot =>
    if slot = some "input" then "converting from unknown unit"
    else if slot = some "output" then "converting to unknown unit"
    else "unknown unit"
  | recallUnset _ => "unable to recall variable"
  | malformedExpression _ _ => "parse error"
  | unknownMetricPrefix _ _ => "unknown metric prefix"
  | nameMissing _ _ => "expected a unit name or recall expression"
  | nameNotAllowed _ _ => "recall expression takes no unit name"
  | incompatible _ _ _ _ => "incompatible unit types"
  | holdsNoUnit slot => s!"slot {slot.name} does not hold a unit"

/-- The given detail, or the token between apostrophes when there is none. -/
def detailOr (token : String) (detail : Option String) : String :=
  match detail with
  | some text => if text.isEmpty then s!"'{token}'" else text
  | none => s!"'{token}'"

/-- What the failure is about, in words. -/
def detail : ConversionError → Option String
  | failed detail => detail
  | invalidValue token none => some s!"'{token}'"
  | invalidValue token (some reason) => some s!"'{token}' ({reason})"
  | unknownUnit name _ => some name
  | recallUnset slot => some s!"{slot}: not set"
  | malformedExpression token detail => some (detailOr token detail)
  | unknownMetricPrefix letter token => some s!"'{letter}' in '{token}'"
  | nameMissing token detail => some (detailOr token detail)
  | nameNotAllowed token detail => some (detailOr token detail)
  | incompatible inputType outputType _ _ =>
    some s!"attempted to convert {inputType} to {outputType}"
  | holdsNoUnit _ => none

/-- The whole message: the kind of failure, and what it is about unless that is empty. -/
def message (error : ConversionError) : String :=
  match error.detail with
  | some detail => if detail.isEmpty then error.description else s!"{error.description}: {detail}"
  | none => error.description

end ConversionError

end UnitConversion

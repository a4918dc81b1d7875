import UnitConversion.Conversion
import UnitConversion.Expression.Unit
import UnitConversion.Expression.Value
import UnitConversion.Recall
import UnitConversion.Registry

/-!
# Resolving the words of a request

Words become values and units: literals are looked up and remembered, recalls are replaced by what
is remembered. What was remembered before a failure stays remembered.
-/

namespace UnitConversion

/-- A word for a unit that was resolved. -/
structure Resolution where
  /-- The place of the word. -/
  slot : Slot
  /-- The word. -/
  token : String
  /-- The unit it stands for. -/
  resolved : ResolvedUnit

/-- The resolution in words. -/
def Resolution.message (resolution : Resolution) : String :=
  let resolved := resolution.resolved
  s!"{resolution.slot.name}: '{resolution.token}' -> {resolved.unit.name} " ++
    s!"({resolved.unit.quantity.name}, x{Numeric.roundedText 6 resolved.multiplier})"

/-- What a request works on. -/
structure Memory where
  /-- What is recalled. -/
  remembered : Recall
  /-- The words for units that the request resolved so far, in order. -/
  resolutions : List Resolution

/-- Part of a request. It may fail, and what it remembered stays remembered when it does. -/
abbrev Attempt (α : Type) := ExceptT ConversionError (StateM Memory) α

namespace Attempt

/-- Carry out a request on what is recalled. -/
def runOn {α : Type} (attempt : Attempt α) (remembered : Recall) :
    Except ConversionError α × Memory :=
  (ExceptT.run attempt).run ⟨remembered, []⟩

/-- A step that needs no memory. -/
def check {α : Type} (result : Except ConversionError α) : Attempt α := ExceptT.mk (pure result)

/-- What is recalled now. -/
def recalled : Attempt Recall := return (← get).remembered

/-- Replace what is recalled. -/
def setRecall (remembered : Recall) : Attempt Unit :=
  modify fun memory => { memory with remembered }

end Attempt

open Attempt

/-- The value that a word stands for. A literal is remembered. -/
def resolveValue (token : String) : Attempt Float := do
  match ← check (ValueExpression.read token) with
  | .literal value =>
    setRecall ((← recalled).rememberValue value)
    return value
  | .recalled =>
    match (← recalled).value with
    | some value => return value
    | none => throw (.recallUnset Slot.value.name)

/-- The factor and the text of an optional metric prefix. -/
def prefixParts (metric : Option MetricPrefix) : Float × String :=
  match metric with
  | some metric => (metric.multiplier, metric.text)
  | none => (1.0, "")

/-- The unit remembered in a place, with an optional metric prefix. -/
def recallUnit (slot : Slot) (metric : Option MetricPrefix) : Attempt ResolvedUnit := do
  match ← check ((← recalled).unitAt slot) with
  | some unit =>
    let (multiplier, text) := prefixParts metric
    return ⟨unit.unit, multiplier, text, unit.typedName⟩
  | none => throw (.recallUnset slot.name)

/-- The unit of the given name, with an optional metric prefix. It is remembered without the
prefix. -/
def lookupUnit (registry : Registry) (slot : Slot) (name : String) (metric : Option MetricPrefix) :
    Attempt ResolvedUnit := do
  match registry.lookup name with
  | some unit =>
    setRecall (← check ((← recalled).remember slot unit name))
    let (multiplier, text) := prefixParts metric
    return ⟨unit, multiplier, text, name⟩
  | none => throw (.unknownUnit name (some slot.name))

/-- The unit that an expression stands for. -/
def resolveExpression (registry : Registry) (slot : Slot) : UnitExpression → Attempt ResolvedUnit
  | .recalled => recallUnit slot none
  | .prefixedRecall metric => recallUnit slot (some metric)
  | .literal name => lookupUnit registry slot name none
  | .prefixed metric name => lookupUnit registry slot name (some metric)

/-- The unit that a word stands for. -/
def resolveUnit (registry : Registry) (slot : Slot) (token : String) : Attempt ResolvedUnit := do
  let expression ← check (UnitExpression.read token)
  let resolved ← resolveExpression registry slot expression
  modify fun memory =>
    { memory with resolutions := memory.resolutions ++ [⟨slot, token, resolved⟩] }
  return resolved

end UnitConversion

import UnitConversion.Conversion
import UnitConversion.Expression.Unit
import UnitConversion.Expression.Value
import UnitConversion.Output.Style
import UnitConversion.Recall

/-!
# Rendering results

A result is rendered from the finished conversion, or from the words that asked for it. Units are
shown by the names that were used, recalls by the names that they stand for.
-/

namespace UnitConversion

/-- A finished conversion. -/
structure FinishedConversion where
  /-- The value converted. -/
  value : Float
  /-- The converted value. -/
  result : Float
  /-- The unit converted from. -/
  source : ResolvedUnit
  /-- The unit converted to. -/
  target : ResolvedUnit

/-- A result in the given style, from the texts of its parts. -/
def OutputStyle.compose (style : OutputStyle) (value input result output : String) : String :=
  match style with
  | simple => result
  | descriptive => s!"{result} {output}"
  | verbose => s!"{value} {input} = {result} {output}"

/-- A finished conversion as text. -/
def FinishedConversion.render (conversion : FinishedConversion) (style : OutputStyle)
    (precision : Precision) : String :=
  style.compose (formatNumber precision conversion.value) conversion.source.displayName
    (formatNumber precision conversion.result) conversion.target.displayName

namespace Rendering

/-- The name to show for a word, where `recalled` is the unit that its place holds. A word that
cannot be read, or that recalls nothing, is shown as it is. -/
def displayName (token : String) (recalled : Option RecalledUnit) : String :=
  match UnitExpression.read token, recalled with
  | .error _, _ => token
  | .ok (.literal name), _ => name
  | .ok (.prefixed metric name), _ => metric.text ++ name
  | .ok .recalled, some unit => unit.displayName
  | .ok (.prefixedRecall metric), some unit => metric.text ++ unit.displayName
  | .ok _, none => token

/-- The word is a recall. -/
def isRecall (token : String) : Bool :=
  match UnitExpression.read token with
  | .ok .recalled => true
  | .ok (.prefixedRecall _) => true
  | _ => false

/-- The name to show for a word in a place. The place of the value has nothing to recall. -/
def displayNameAt (token : String) (memory : Option Recall) (slot : Slot) :
    Except ConversionError String :=
  match memory with
  | none => .ok (displayName token none)
  | some memory =>
    if isRecall token then (memory.unitAt slot).map (displayName token)
    else .ok (displayName token none)

/-- The number to show for the word of a value; nothing when the word is shown as it is. -/
def displayNumber? (token : String) (memory : Option Recall) : Option Float :=
  if token = ValueExpression.recallText then memory.bind (·.value)
  else
    match Numeric.readNumber token with
    | .ok value => if value.isFinite then some value else none
    | .error _ => none

/-- The text to show for the word of a value. -/
def displayValue (token : String) (memory : Option Recall) (precision : Precision) : String :=
  match displayNumber? token memory with
  | some value => formatNumber precision value
  | none => token

/-- The text to show for the word of a value, with a precision that is checked when it is needed. -/
def displayValueChecked (token : String) (memory : Option Recall) (digits : Int) :
    Except InvalidPrecision String :=
  match displayNumber? token memory with
  | some value => (Precision.ofInt digits).map fun precision => formatNumber precision value
  | none => .ok token

/-- A result as text, from the words that asked for it. -/
def formatResult (style : OutputStyle) (result : Float) (value input output : String)
    (memory : Option Recall) (precision : Precision) : String :=
  style.compose (displayValue value memory precision) (displayName input (memory.bind (·.input)))
    (formatNumber precision result) (displayName output (memory.bind (·.output)))

end Rendering

end UnitConversion

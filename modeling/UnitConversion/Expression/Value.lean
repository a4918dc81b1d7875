import UnitConversion.Error
import UnitConversion.Numeric.Literal

/-!
# Value expressions

A word that stands for a value is a number literal, or the sign that recalls the value used last.
-/

namespace UnitConversion

/-- A value expression. -/
inductive ValueExpression
  /-- A finite number. -/
  | literal (value : Float)
  /-- The value used last. -/
  | recalled

namespace ValueExpression

/-- The text that recalls the value used last. -/
def recallText : String := ":"

/-- Read a value expression. Numbers that are not finite are refused. -/
def read (token : String) : Except ConversionError ValueExpression :=
  if token = recallText then .ok .recalled
  else
    match Numeric.readNumber token with
    | .error _ => .error (.invalidValue token none)
    | .ok value =>
      if value.isFinite then .ok (.literal value)
      else .error (.invalidValue token (some "not finite"))

/-- The token looks like a value: it recalls one, or it is a number literal without blanks around
it. -/
def looksLikeValue (token : String) : Bool := token = recallText || Numeric.isLiteral token

end ValueExpression

end UnitConversion

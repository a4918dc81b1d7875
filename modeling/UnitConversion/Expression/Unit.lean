import UnitConversion.Error
import UnitConversion.Expression.MetricPrefix

/-!
# Unit expressions

What a word that stands for a unit asks for: a name, a name with a metric prefix, the unit used last
in the same place, or that one with a metric prefix. Reading an expression looks nothing up.
-/

namespace UnitConversion

/-- A unit expression. -/
inductive UnitExpression
  /-- The unit of this name. -/
  | literal (name : String)
  /-- The unit of this name with a metric prefix. -/
  | prefixed (metric : MetricPrefix) (name : String)
  /-- The unit used last. -/
  | recalled
  /-- The unit used last with a metric prefix. -/
  | prefixedRecall (metric : MetricPrefix)
deriving DecidableEq, Repr

namespace UnitExpression

/-- The character that recalls what was used last. -/
def recallSign : Char := ':'

/-- The character that announces a metric prefix. -/
def prefixSign : Char := '_'

/-- The character that takes the special meaning from the next one. -/
def escape : Char := '\\'

/-- Remove the escapes of a name. Nothing when the name ends inside one. -/
def unescape? : List Char → Option (List Char)
  | [] => some []
  | c :: rest =>
    if c = escape then
      match rest with
      | [] => none
      | escaped :: rest => (unescape? rest).map (escaped :: ·)
    else (unescape? rest).map (c :: ·)

/-- The name that the characters spell; `token` is the expression that they are part of. -/
def readName (token : String) (chars : List Char) : Except ConversionError String :=
  match unescape? chars with
  | none => .error (.nameMissing token (some s!"'{token}' ends with an escape"))
  | some [] => .error (.nameMissing token none)
  | some name => .ok (String.ofList name)

/-- The factor of the metric prefix that is written as the given text. -/
def metricMultiplier (letter token : String) : Except ConversionError Float :=
  match MetricPrefix.ofText? letter with
  | some metric => .ok metric.multiplier
  | none => .error (.unknownMetricPrefix letter (if token.isEmpty then letter else token))

/-- Read what follows a metric prefix. -/
def readPrefixed (token : String) (metric : MetricPrefix) (body : List Char) :
    Except ConversionError UnitExpression :=
  match body with
  | [] =>
    .error (.nameMissing token
      (some s!"prefix '{metric.text}' needs a unit name or '{String.singleton recallSign}'"))
  | c :: rest =>
    if c = recallSign then
      if rest.isEmpty then .ok (.prefixedRecall metric) else .error (.nameNotAllowed token none)
    else (readName token body).map (.prefixed metric)

/-- Read a unit expression, its escapes still in place. -/
def read (token : String) : Except ConversionError UnitExpression :=
  match token.toList with
  | [] => .error (.nameMissing token (some "empty unit expression"))
  | c :: rest =>
    if c = recallSign then
      if rest.isEmpty then .ok .recalled else .error (.nameNotAllowed token none)
    else if c = prefixSign then
      match rest with
      | [] => .error (.nameMissing token (some s!"'{token}' needs a prefix and a unit name"))
      | letter :: body =>
        match MetricPrefix.ofLetter? letter with
        | none => .error (.unknownMetricPrefix (String.singleton letter) token)
        | some metric => readPrefixed token metric body
    else (readName token (c :: rest)).map .literal

end UnitExpression

end UnitConversion

import UnitConversion.Output.Rendering
import UnitConversion.Resolution

/-!
# Sessions

A session is a run of conversions that share what is recalled and how results are written. A request
is given as three words, or as a line of words with several values and several units to convert to.
-/

namespace UnitConversion

namespace Request

/-- Convert a value given by three words. -/
def convertTokens (registry : Registry) (value input output : String) : Attempt Float := do
  let number ← resolveValue value
  let source ← resolveUnit registry .input input
  let target ← resolveUnit registry .output output
  Attempt.check (Conversion.convert number source target)

/-- Convert a value given by three words, and keep what they stood for. -/
def convert (registry : Registry) (value input output : String) : Attempt FinishedConversion := do
  let number ← resolveValue value
  let source ← resolveUnit registry .input input
  let target ← resolveUnit registry .output output
  let result ← Attempt.check (Conversion.convert number source target)
  return ⟨number, result, source, target⟩

/-- The words of a line by their roles. -/
structure Split where
  /-- The words of the values. -/
  values : List String
  /-- The word of the unit converted from. -/
  input : String
  /-- The words of the units converted to. -/
  outputs : List String
deriving DecidableEq, Repr

/-- Take further values off the words after the first one: a word that looks like a value is one
while at least two words stay for the units. -/
def takeValues : List String → List String × List String
  | first :: second :: third :: rest =>
    if ValueExpression.looksLikeValue first then
      let (values, units) := takeValues (second :: third :: rest)
      (first :: values, units)
    else ([], first :: second :: third :: rest)
  | words => ([], words)

/-- The failure of a line with too few words. -/
def tooFewWords (words : List String) : ConversionError :=
  .invalidValue (" ".intercalate words)
    (some "expected a value, an input unit and at least one output unit")

/-- Split the words of a line. The first one is always a value. -/
def split (words : List String) : Except ConversionError Split :=
  match words with
  | value :: input :: output :: rest =>
    match takeValues (input :: output :: rest) with
    | (values, input :: outputs) => .ok ⟨value :: values, input, outputs⟩
    | (_, []) => .error (tooFewWords words)
  | _ => .error (tooFewWords words)

/-- The conversions of all values to all units, the units of the first value first. -/
def grid (source : ResolvedUnit) (values : List Float)
    (columns : List (ResolvedUnit × List Float)) : List FinishedConversion :=
  values.zipIdx.flatMap fun (value, row) =>
    columns.map fun (target, results) => ⟨value, results.getD row value, source, target⟩

/-- One column of the grid: the unit that a word stands for, and the values converted to it. -/
def column (registry : Registry) (values : List Float) (source : ResolvedUnit) (token : String) :
    Attempt (ResolvedUnit × List Float) := do
  let target ← resolveUnit registry .output token
  let results ← Attempt.check (Conversion.convertValues values source target)
  return (target, results)

/-- Convert every value on a line to every unit after its input unit. -/
def convertLine (registry : Registry) (words : List String) :
    Attempt (List FinishedConversion) := do
  let split ← Attempt.check (split words)
  let values ← split.values.mapM resolveValue
  let source ← resolveUnit registry .input split.input
  let columns ← split.outputs.mapM (column registry values source)
  return grid source values columns

end Request

/-- A run of conversions. -/
structure Session where
  /-- The known units. -/
  registry : Registry
  /-- What is recalled. -/
  remembered : Recall
  /-- The style of results. -/
  style : OutputStyle
  /-- The precision of results. -/
  precision : Precision

namespace Session

/-- A session in which nothing was used yet. -/
def start (registry : Registry) (style : OutputStyle) (precision : Precision) : Session :=
  ⟨registry, .empty, style, precision⟩

/-- Carry out a request. Gives its outcome, the session after it and the words it resolved. -/
def perform {α : Type} (session : Session) (attempt : Attempt α) :
    Except ConversionError α × Session × List Resolution :=
  let (outcome, memory) := attempt.runOn session.remembered
  (outcome, { session with remembered := memory.remembered }, memory.resolutions)

/-- A finished conversion as the session writes it. -/
def format (session : Session) (conversion : FinishedConversion) : String :=
  conversion.render session.style session.precision

end Session

end UnitConversion

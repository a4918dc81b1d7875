import UnitConversion.Registry
import UnitConversion.UnitsFile.Entry

/-!
# Reading a units file

A units file is read line by line. A header opens the declaration of a unit, the lines after it set
its fields, and the next header or the end of the file closes it. Lines that cannot be used are
skipped with a warning.
-/

namespace UnitConversion.UnitsFile

open Text

/-- A unit between its header and the next one. -/
structure Declaration where
  /-- The primary name. -/
  name : String
  /-- The number of the header's line. -/
  line : Nat
  /-- The fields that are set, in the order of their lines. -/
  settings : List Setting

namespace Declaration

/-- The field is set. -/
def sets (declaration : Declaration) (field : Field) : Bool :=
  declaration.settings.any (·.field == field)

/-- The required fields that are not set. -/
def missing (declaration : Declaration) : List Field :=
  Field.required.filter fun field => !declaration.sets field

/-- The aliases, in order. -/
def aliases (declaration : Declaration) : List String :=
  (declaration.settings.findSome? fun
    | .aliases names => some names
    | _ => none).getD []

/-- The quantity, if it is set. -/
def quantity? (declaration : Declaration) : Option Quantity :=
  declaration.settings.findSome? fun
    | .quantity quantity => some quantity
    | _ => none

/-- The factor, if it is set. -/
def factor? (declaration : Declaration) : Option Float :=
  declaration.settings.findSome? fun
    | .factor factor => some factor
    | _ => none

/-- The zero point; zero unless it is set. -/
def zeroPoint (declaration : Declaration) : Float :=
  (declaration.settings.findSome? fun
    | .zeroPoint offset => some offset
    | _ => none).getD 0.0

/-- The exponent of prefixes; one unless it is set. -/
def dimensions (declaration : Declaration) : Int :=
  (declaration.settings.findSome? fun
    | .dimensions dimensions => some dimensions
    | _ => none).getD 1

/-- Whether the unit is inverse; not unless it is set. -/
def inverse (declaration : Declaration) : Bool :=
  (declaration.settings.findSome? fun
    | .inverse inverse => some inverse
    | _ => none).getD false

/-- Join aliases to names, each name once. Gives the names and the aliases that were left out. -/
def joinNames (names : List String) : List String → List String × List String
  | [] => (names, [])
  | name :: rest =>
    if names.contains name then
      let (joined, repeated) := joinNames names rest
      (joined, name :: repeated)
    else joinNames (names ++ [name]) rest

/-- The unit that the declaration describes, its required fields given. -/
def unit (declaration : Declaration) (names : List String) (quantity : Quantity)
    (factor : Float) : Except UnitDefect MeasureUnit :=
  MeasureUnit.make names quantity factor declaration.zeroPoint declaration.dimensions
    declaration.inverse

end Declaration

/-- What is known between two lines. -/
structure Reader where
  /-- The units declared so far. -/
  registry : Registry
  /-- The warnings so far, in the order in which they arose. -/
  warnings : List Warning
  /-- The declaration that is open. -/
  current : Option Declaration

namespace Reader

/-- Before the first line. -/
def initial : Reader := ⟨.empty, [], none⟩

/-- Report a problem with a line. -/
def warn (reader : Reader) (line : Nat) (problem : Problem) : Reader :=
  { reader with warnings := reader.warnings ++ [⟨line, problem⟩] }

/-- Add a unit, reporting names that are taken. -/
def addUnit (reader : Reader) (declaration : Declaration) (unit : MeasureUnit) : Reader :=
  let taken := reader.registry.conflicts unit
  let reader :=
    if taken.isEmpty then reader
    else reader.warn declaration.line (.namesTaken declaration.name taken)
  match reader.registry.add unit with
  | (registry, some _) => { reader with registry }
  | (_, none) => reader.warn declaration.line (.noNamesLeft declaration.name)

/-- Declare the unit of a closed declaration whose required fields are set. -/
def declareUnit (reader : Reader) (declaration : Declaration) (quantity : Quantity)
    (factor : Float) : Reader :=
  let (names, repeated) := Declaration.joinNames [declaration.name] declaration.aliases
  let reader := repeated.foldl
    (fun reader name => reader.warn declaration.line (.repeatedName declaration.name name)) reader
  match declaration.unit names quantity factor with
  | .error defect => reader.warn declaration.line (.defective declaration.name defect)
  | .ok unit => reader.addUnit declaration unit

/-- Close the open declaration and add its unit. -/
def finish (reader : Reader) : Reader :=
  match reader.current with
  | none => reader
  | some declaration =>
    let reader := { reader with current := none }
    match declaration.quantity?, declaration.factor? with
    | some quantity, some factor => reader.declareUnit declaration quantity factor
    | _, _ => reader.warn declaration.line (.missing declaration.name declaration.missing)

/-- Set a field of the open declaration. -/
def assign (limit : DigitLimit) (reader : Reader) (line : Nat) (key : String)
    (values : List String) : Except TooManyDigits Reader :=
  match reader.current with
  | none => .ok (reader.warn line (.outsideDeclaration key))
  | some declaration =>
    match Field.ofKey? key with
    | none => .ok (reader.warn line (.unknownKey key declaration.name))
    | some field =>
      if declaration.sets field then .ok (reader.warn line (.alreadySet key declaration.name))
      else
        match field.read limit key values with
        | .accepted setting =>
          let settings := declaration.settings ++ [setting]
          .ok { reader with current := some { declaration with settings } }
        | .refused fault => .ok (reader.warn line (.refused declaration.name fault))
        | .overlong failure => .error failure

/-- Take in what a line says. -/
def take (limit : DigitLimit) (reader : Reader) (line : Nat) : Entry → Except TooManyDigits Reader
  | .blank => .ok reader
  | .faulty problem => .ok (reader.warn line problem)
  | .brokenHeader problem => .ok (reader.finish.warn line problem)
  | .header name => .ok { reader.finish with current := some ⟨name, line, []⟩ }
  | .assignment key values => reader.assign limit line key values

/-- Read one line. -/
def feed (limit : DigitLimit) (reader : Reader) (line : Nat) (text : String) :
    Except TooManyDigits Reader :=
  reader.take limit line (Entry.ofLine text)

/-- Read lines, the first of which has the given number. -/
def feedLines (limit : DigitLimit) (reader : Reader) (line : Nat) :
    List String → Except TooManyDigits Reader
  | [] => .ok reader
  | text :: rest => do
    let reader ← reader.feed limit line text
    reader.feedLines limit (line + 1) rest

end Reader

/-- The units of a file and the warnings about it. -/
structure Loaded where
  /-- The units. -/
  registry : Registry
  /-- The warnings, in the order in which they arose. -/
  warnings : List Warning

/-- Load the units that lines declare. -/
def load (limit : DigitLimit) (lines : List String) : Except TooManyDigits Loaded := do
  let reader ← Reader.initial.feedLines limit 1 lines
  let reader := reader.finish
  return ⟨reader.registry, reader.warnings⟩

end UnitConversion.UnitsFile

import UnitConversion.Output.Style
import UnitConversion.Settings.Datum

/-!
# Checking settings

Settings are a mapping with at most three keys. Every mistake is reported in a banner that names the
file and the key.
-/

namespace UnitConversion

open Text

namespace Settings

/-- A key of the settings. -/
inductive Key
  | unitsFile | format | precision
deriving DecidableEq, Repr

/-- All keys. -/
def Key.all : List Key := [unitsFile, format, precision]

/-- The key as it is written. -/
def Key.name : Key → String
  | unitsFile => "units_file"
  | format => "format"
  | precision => "precision"

/-- What messages call the kind of value that the key takes. -/
def Key.kind : Key → String
  | unitsFile => "str"
  | format => "str"
  | precision => "int"

/-- The value is of the kind that the key takes. A truth value is no integer. -/
def Key.accepts : Key → Datum → Bool
  | unitsFile, .text _ => true
  | format, .text _ => true
  | precision, .int _ => true
  | _, _ => false

/-- A mistake in the settings. -/
inductive Mistake
  /-- The settings are no mapping. -/
  | notMapping (kind : String)
  /-- There are keys that mean nothing. -/
  | unknownKeys (keys : List String)
  /-- A value is of the wrong kind. -/
  | wrongKind (key : Key) (kind shown : String)
  /-- No style has the name. -/
  | unknownFormat (name : String)
  /-- The precision is out of range. -/
  | precisionRange (shown : String)
deriving DecidableEq, Repr

/-- The line above and below a banner. -/
def ruler : String := String.ofList (List.replicate 60 '=')

/-- What the banner says in its title. -/
def Mistake.title : Mistake → String
  | notMapping _ => "Settings must be a mapping"
  | unknownKeys _ => "Unknown settings"
  | wrongKind key _ _ => s!"{key.name} has the wrong type"
  | unknownFormat _ => "Unknown output format"
  | precisionRange _ => "precision out of range"

/-- Names as a list with one line each. -/
def bulletLines (names : List String) : String :=
  String.join (names.map fun name => s!"  - {name}\n")

/-- What the banner says in its body. -/
def Mistake.body : Mistake → String
  | notMapping kind => s!"Got {kind} instead of key: value pairs."
  | unknownKeys keys =>
    s!"Unknown keys:\n{bulletLines keys}\nAllowed keys:\n{bulletLines (Key.all.map Key.name)}"
  | wrongKind key kind shown => s!"Expected {key.kind}, got {kind}: {shown}"
  | unknownFormat name =>
    s!"format: {name}\n\nUse one of: " ++ ", ".intercalate (OutputStyle.all.map OutputStyle.name)
  | precisionRange shown =>
    s!"precision: {shown}\n\nSignificant digits must be within 1..{maxPrecision}."

/-- The banner, with the file that the settings are from. -/
def Mistake.banner (mistake : Mistake) (file : Option String) : String :=
  let location := match file with
    | some path => s!"File: {path}\n"
    | none => ""
  s!"\n{ruler}\nCONFIGURATION ERROR: {mistake.title}\n{ruler}\n{location}\n{mistake.body}\n{ruler}"

/-- Why settings are not accepted. -/
inductive Refusal
  /-- There is a mistake to report. -/
  | mistake (mistake : Mistake)
  /-- There is a mistake that cannot be shown. -/
  | overlong (failure : TooManyDigits)
deriving DecidableEq, Repr

/-- Settings as they are given. The values of a mapping are looked at only where one is asked for. -/
inductive Given
  /-- A value that is no mapping. -/
  | other (kind : String)
  /-- The keys of a mapping, and its values by the names of keys. -/
  | mapping (keys : List Datum) (value? : String → Option Datum)

/-- Settings without any key. -/
def Given.empty : Given := .mapping [] fun _ => none

/-- Settings that are given as a value. -/
def Given.ofDatum : Datum → Given
  | .mapping entries => .mapping (entries.map (·.1)) (Datum.field? entries)
  | datum => .other datum.kind

/-- Settings that were accepted. -/
structure Accepted where
  /-- The units file, unless it is left open. -/
  unitsFile : Option String
  /-- The style, unless it is left open. -/
  style : Option OutputStyle
  /-- The precision, unless it is left open. -/
  precision : Option Precision

/-- Show a value for a message. -/
def shown (text : Except TooManyDigits String) : Except Refusal String :=
  text.mapError Refusal.overlong

/-- The key means something. -/
def isKnown (key : Datum) : Bool :=
  match key with
  | .text name => Key.all.any (·.name == name)
  | _ => false

/-- Refuse keys that mean nothing. -/
def checkKeys (keys : List Datum) : Except Refusal Unit := do
  match keys.filter fun key => !isKnown key with
  | [] => return
  | unknown => throw (.mistake (.unknownKeys (← unknown.mapM fun key => shown key.plain)))

/-- The value of a key, unless it is left open; refused when it is of the wrong kind. -/
def valueOf (value? : String → Option Datum) (key : Key) : Except Refusal (Option Datum) :=
  match value? key.name with
  | none => .ok none
  | some .null => .ok none
  | some value =>
    if key.accepts value then .ok (some value)
    else do throw (.mistake (.wrongKind key value.kind (← shown value.render)))

/-- The style of a full name; blanks around the name and its case do not matter. -/
def readStyle (name : String) : Except Refusal OutputStyle :=
  match OutputStyle.ofFullName? (lower (trim name)) with
  | some style => .ok style
  | none => .error (.mistake (.unknownFormat name))

/-- A precision in range. -/
def readPrecision (digits : Int) : Except Refusal Precision :=
  match Precision.ofInt digits with
  | .ok precision => .ok precision
  | .error _ => do throw (.mistake (.precisionRange (← shown (Datum.printInteger digits))))

/-- The text of a value that is one. -/
def textOf? : Datum → Option String
  | .text value => some value
  | _ => none

/-- The integer of a value that is one. -/
def integerOf? : Datum → Option Int
  | .int value => some value
  | _ => none

/-- Check settings. All keys are checked before any value, all kinds before any range. -/
def validate : Given → Except Refusal Accepted
  | .other kind => throw (.mistake (.notMapping kind))
  | .mapping keys value? => do
    checkKeys keys
    let unitsFile ← valueOf value? .unitsFile
    let format ← valueOf value? .format
    let precision ← valueOf value? .precision
    let style ← (format.bind textOf?).mapM readStyle
    let precision ← (precision.bind integerOf?).mapM readPrecision
    return ⟨unitsFile.bind textOf?, style, precision⟩

end Settings

end UnitConversion

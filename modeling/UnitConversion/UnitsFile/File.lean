import UnitConversion.Settings.File
import UnitConversion.UnitsFile.Stock

/-!
# The units file in use

The units come from a file that is named or the user's own, or else from the stock of units that the
program brings along.
-/

namespace UnitConversion.UnitsFile

open Text

/-- Where the units come from. -/
inductive Source
  /-- A file. -/
  | file (path : Path)
  /-- The stock of the program. -/
  | stock
deriving DecidableEq, Repr

/-- The source as messages show it. -/
def Source.name : Source → String
  | file path => path.toString
  | stock => "<packaged>"

/-- The source of the units. -/
def find (environment : Environment) (tree : FileTree) (argument : Option String)
    (settings : Option Settings) : Except StartFailure Source := do
  let named := (Settings.named? environment argument Settings.unitsVariable).or
    (settings.bind Settings.unitsFile)
  match named with
  | some path => return .file (← Settings.requireFile environment tree path)
  | none =>
    match ← Settings.ownFile? environment tree "units.cfg" with
    | some path => return .file path
    | none => return .stock

/-- What comes of reading a file: the warnings, and the units if there was no failure. -/
structure FileReading where
  /-- The warnings, in the order in which they arose. -/
  warnings : List Warning
  /-- The units, or why there are none. -/
  outcome : Except StartFailure Loaded

/-- Read the lines of a decoded file. The lines before a place that is no UTF-8 are read. -/
def readDecoded (path : String) (decoded : Decoded) : FileReading :=
  match Reader.initial.feedLines digitLimit 1 decoded.lines with
  | .error refusal => ⟨[], .error (.brokenOff (.overlongNumeral refusal))⟩
  | .ok reader =>
    match decoded.failure with
    | some failure =>
      ⟨reader.warnings, .error (.reported (.unreadable (.ofString path) failure.message))⟩
    | none =>
      let reader := reader.finish
      ⟨reader.warnings, .ok ⟨reader.registry, reader.warnings⟩⟩

/-- Read a file. A byte order mark at its start is no part of the text. -/
def fromFile (tree : FileTree) (path : String) : FileReading :=
  match tree.read path with
  | .error fault => ⟨[], .error (StartFailure.ofFileFault path fault)⟩
  | .ok bytes => readDecoded path (decode true bytes)

/-- Read the units of a source. -/
def Source.read (tree : FileTree) : Source → FileReading
  | file path => fromFile tree path.toString
  | stock => ⟨UnitsFile.stock.warnings, .ok UnitsFile.stock⟩

end UnitConversion.UnitsFile

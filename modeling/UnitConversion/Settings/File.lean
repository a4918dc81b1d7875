import UnitConversion.Settings.Failure
import UnitConversion.Yaml.Document

/-!
# The settings file and the places of files

A file that is named by an argument, a variable or the settings has to be there; the files in the
home directory are used when they are there.
-/

namespace UnitConversion

open Text

/-- Settings in force. -/
structure Settings where
  /-- The units file, if one is named. -/
  unitsFile : Option Path
  /-- The style of results. -/
  style : OutputStyle
  /-- The precision of results. -/
  precision : Precision
  /-- The file that the settings are from. -/
  source : Option Path

namespace Settings

/-- The settings without a file. -/
def standard : Settings := ⟨none, .simple, .standard, none⟩

/-- The variable that names the settings file. -/
def settingsVariable : String := "UCON_CONFIG"

/-- The variable that names the units file. -/
def unitsVariable : String := "UCON_UNITS"

/-- The variable that names the directory of both. -/
def homeVariable : String := "UCON_HOME"

/-- Replace a tilde at the start of a path, which takes a home directory that is known. -/
def expand (environment : Environment) (path : Path) : Except StartFailure Path :=
  match path.expandHome environment with
  | some expanded => .ok expanded
  | none => .error (.brokenOff .homeUnknown)

/-- The directory of the user's own files. -/
def home (environment : Environment) : Except StartFailure Path :=
  match environment.getNonempty? homeVariable with
  | some directory => expand environment (.ofString directory)
  | none => return (← expand environment (.ofString "~")).under (.ofString ".ucon")

/-- Whether a path leads to a file. -/
def isFile (tree : FileTree) (path : Path) : Except StartFailure Bool :=
  (tree.isFile path).mapError fun fault => .brokenOff (.unusablePath fault path.toString)

/-- A path that was named has to lead to a file. -/
def requireFile (environment : Environment) (tree : FileTree) (path : Path) :
    Except StartFailure Path := do
  let path ← expand environment path
  if ← isFile tree path then return path
  throw (.reported (.unreadable path "no such file"))

/-- A file of the user's own, if it is there. -/
def ownFile? (environment : Environment) (tree : FileTree) (name : String) :
    Except StartFailure (Option Path) := do
  let path := (← home environment).under (.ofString name)
  return if ← isFile tree path then some path else none

/-- The path that an argument names, or else a variable. Empty texts name nothing. -/
def named? (environment : Environment) (argument : Option String) (name : String) :
    Option Path :=
  ((argument.filter fun text => !text.isEmpty).or (environment.getNonempty? name)).map
    Path.ofString

/-- The settings file in use, if there is one. -/
def find (environment : Environment) (tree : FileTree) (argument : Option String) :
    Except StartFailure (Option Path) :=
  match named? environment argument settingsVariable with
  | some path => (requireFile environment tree path).map some
  | none => ownFile? environment tree "config.yaml"

/-- The settings that a document gives. -/
def Given.ofDocument (document : Yaml.Document) : Given :=
  match document.shape document.root with
  | .leaf .null => .empty
  | .mapping entries =>
    .mapping (entries.map (·.1)) fun name => (Datum.field? entries name).map document.datum
  | shape => .other (shape.datum fun _ => .null).kind

/-- The settings that a file gives. An empty one gives none. The whole file is decoded before its
text is looked at, so that a byte that cannot be decoded is met before any fault of the YAML text.
That is so for a reader of blocks as well, unless the byte stands behind the 8192 characters that
are read ahead: there such a reader may report a fault of the text before the byte and never meet
it. -/
def readGiven (tree : FileTree) (file : Path) : Except StartFailure Given := do
  let bytes ← (tree.read file.toString).mapError (StartFailure.ofFileFault file.toString)
  let decoded := decode false bytes
  match decoded.failure with
  | some failure => throw (.brokenOff (.undecodable failure))
  | none =>
    let text := String.ofList (unifyBreaks decoded.chars)
    let document ← (Yaml.Document.ofText text).mapError (StartFailure.ofYamlFault file)
    return (document.map Given.ofDocument).getD .empty

/-- The units file that settings name, meant from the directory of the settings file. -/
def locateUnits (environment : Environment) (file : Path) (name : String) :
    Except StartFailure (Option Path) := do
  if name.isEmpty then return none
  return some (file.parent.under (← expand environment (.ofString name)))

/-- Read a settings file. -/
def fromFile (environment : Environment) (tree : FileTree) (file : Path) :
    Except StartFailure Settings := do
  let given ← readGiven tree file
  let accepted ← (validate given).mapError (StartFailure.ofRefusal file)
  let unitsFile ← locateUnits environment file (accepted.unitsFile.getD "")
  return { unitsFile
           style := accepted.style.getD standard.style
           precision := accepted.precision.getD standard.precision
           source := some file }

/-- The settings in use. -/
def load (environment : Environment) (tree : FileTree) (argument : Option String) :
    Except StartFailure Settings := do
  match ← find environment tree argument with
  | some file => fromFile environment tree file
  | none => return standard

end Settings

end UnitConversion

import UnitConversion.CommandLine.Arguments
import UnitConversion.Session
import UnitConversion.UnitsFile.File

/-!
# Startup

Before anything is converted the settings and the units are loaded. Every step leaves a line in the
log, which is there even when a later step fails.
-/

namespace UnitConversion.CommandLine

/-- A step of the startup. -/
abbrev Startup := ExceptT StartFailure (StateM Transcript)

namespace Startup

/-- Add a line to the log. -/
def log (level : LogLevel) (text : String) : Startup Unit :=
  modify (· ++ [.log level text])

/-- A step that leaves no line. -/
def ofExcept {α : Type} (outcome : Except StartFailure α) : Startup α :=
  match outcome with
  | .ok value => pure value
  | .error failure => throw failure

/-- Load the settings. -/
def settings (environment : Environment) (tree : FileTree) (argument : Option String) :
    Startup Settings := do
  match ← ofExcept (Settings.find environment tree argument) with
  | none =>
    log .debug "no settings file, using defaults"
    return .standard
  | some file =>
    log .info s!"Settings: {file.toString}"
    ofExcept (Settings.fromFile environment tree file)

/-- Load the units of a source. -/
def units (tree : FileTree) (source : UnitsFile.Source) : Startup Registry := do
  let name := source.name
  log .info s!"Units: {name}"
  let found := source.read tree
  found.warnings.forM fun warning => log .warning s!"{name}: {warning.text}"
  let loaded ← ofExcept found.outcome
  log .info s!"Loaded {loaded.registry.units.length} units from {name}"
  if !found.warnings.isEmpty then
    log .info s!"{found.warnings.length} warning(s) in {name}"
  return loaded.registry

/-- Load the settings and the units. -/
def all (environment : Environment) (tree : FileTree) (arguments : Arguments) :
    Startup (Settings × Registry) := do
  let settings ← settings environment tree arguments.config
  let source ← ofExcept (UnitsFile.find environment tree arguments.units (some settings))
  return (settings, ← units tree source)

end Startup

/-- The session that arguments and settings ask for. What the arguments leave open is as the
settings say. -/
def Arguments.session (arguments : Arguments) (settings : Settings) (registry : Registry) :
    Except Breakdown Session :=
  let start := Session.start registry (arguments.style.getD settings.style)
  match arguments.precision with
  | none => .ok (start settings.precision)
  | some (some precision) => .ok (start precision)
  | some none => .error .precisionMissing

end UnitConversion.CommandLine

import UnitConversion.CommandLine.Program

/-!
# The files that a run looks at

A run sees the files through a tree. These are the paths that the tree has to know; some of them
come from the settings file, so they are asked for again once that file is known.
-/

namespace UnitConversion.CommandLine

/-- A path with its home directory put in, if that is known. -/
def expanded? (environment : Environment) (path : Path) : Option String :=
  (path.expandHome environment).map Path.toString

/-- The paths of the user's own files. -/
def ownPaths (environment : Environment) : List String :=
  match Settings.home environment with
  | .ok home => ["config.yaml", "units.cfg"].map fun name => (home.under (.ofString name)).toString
  | .error _ => []

/-- The paths that a run with arguments looks at, as far as a tree tells. -/
def Arguments.paths (arguments : Arguments) (environment : Environment) (tree : FileTree) :
    List String :=
  let settings := (Settings.load environment tree arguments.config).toOption
  let named := [Settings.named? environment arguments.config Settings.settingsVariable,
    Settings.named? environment arguments.units Settings.unitsVariable,
    settings.bind Settings.unitsFile]
  named.filterMap (·.bind (expanded? environment)) ++ ownPaths environment ++
    arguments.batch.toList ++ arguments.output.toList

end UnitConversion.CommandLine

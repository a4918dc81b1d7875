import UnitConversion.Console.Transcript
import UnitConversion.Output.Style

/-!
# Options of the command line

Each option has a long name, most of them a short one of a single letter, and some take a value.
-/

namespace UnitConversion.CommandLine

/-- An option. -/
inductive Flag
  | help
  | style (chosen : OutputStyle)
  | precision
  | config
  | units
  | logLevel
  | batch
  | output
  | quiet
  | listUnits
  | version
deriving DecidableEq, Repr

/-- Whether an option takes a value. -/
inductive Arity
  | withoutValue
  | withOptionalValue
  | withValue
deriving DecidableEq, Repr

namespace Flag

/-- All options, in the order in which messages name them. -/
def all : List Flag :=
  [help, style .simple, style .descriptive, style .verbose, precision, config, units, logLevel,
   batch, output, quiet, listUnits, version]

/-- The name without the hyphens. -/
def word : Flag → String
  | help => "help"
  | style chosen => chosen.name
  | precision => "precision"
  | config => "config"
  | units => "units"
  | logLevel => "log-level"
  | batch => "batch"
  | output => "output"
  | quiet => "quiet"
  | listUnits => "list-units"
  | version => "version"

/-- The long name. -/
def longName (flag : Flag) : String := "--" ++ flag.word

/-- The letter of the short name. -/
def letter? : Flag → Option Char
  | help => some 'h'
  | style .simple => some 's'
  | style .descriptive => some 'd'
  | style .verbose => some 'v'
  | batch => some 'b'
  | output => some 'o'
  | quiet => some 'q'
  | _ => none

/-- What messages call the option. -/
def display (flag : Flag) : String :=
  match flag.letter? with
  | some letter => "-" ++ letter.toString ++ "/" ++ flag.longName
  | none => flag.longName

/-- Whether the option takes a value. -/
def arity : Flag → Arity
  | precision | config | units | logLevel | output => .withValue
  | batch | listUnits => .withOptionalValue
  | help | style _ | quiet | version => .withoutValue

/-- The option with a letter. -/
def ofLetter? (letter : Char) : Option Flag := all.find? (·.letter? == some letter)

/-- The options whose long names start with a text. -/
def startingWith (text : String) : List Flag :=
  all.filter fun flag => text.toList.isPrefixOf flag.longName.toList

end Flag

end UnitConversion.CommandLine

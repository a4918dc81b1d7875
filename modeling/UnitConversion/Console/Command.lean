import UnitConversion.Session

/-!
# Console commands

The commands that show or change the state of a session. A command answers with a text or fails
without changing anything.
-/

namespace UnitConversion

/-- The name and version of the program. -/
def versionText : String := "ucon 1.0.0"

/-- A console command. -/
inductive Command
  | format | value | inputUnit | outputUnit | units | help | version
deriving DecidableEq, Repr

/-- Why a command fails. -/
inductive CommandError
  /-- There is an argument too many. -/
  | unrecognizedArgument (word : String)
  /-- No style has the name. -/
  | unknownStyle (failure : UnknownStyle)
  /-- No quantity has the name. -/
  | unknownQuantity (failure : UnknownQuantity)
  /-- A recall stands where a literal is needed. -/
  | notLiteral
  /-- No unit has the name. -/
  | unknownUnit (name : String)
  /-- An argument cannot be read. -/
  | conversion (error : ConversionError)
deriving DecidableEq, Repr

/-- The failure in words. -/
def CommandError.message : CommandError → String
  | unrecognizedArgument word => s!"unrecognized argument: {word}"
  | unknownStyle failure => failure.message
  | unknownQuantity failure => failure.message
  | notLiteral => "recall variables must be literals"
  | unknownUnit name => s!"unknown unit: {name}"
  | conversion error => error.message

namespace Command

/-- The word that invokes the command. -/
def word : Command → String
  | format => "format"
  | value => "value"
  | inputUnit => "input_unit"
  | outputUnit => "output_unit"
  | units => "units"
  | help => "help"
  | version => "version"

/-- All commands. -/
def all : List Command := [format, value, inputUnit, outputUnit, units, help, version]

/-- The command that a word invokes. -/
def ofWord? (word : String) : Option Command := all.find? (·.word == word)

/-- The most arguments that the command takes; the name of a quantity may have any number of
words. -/
def argumentLimit : Command → Option Nat
  | format | value | inputUnit | outputUnit => some 1
  | units => none
  | help | version => some 0

/-- Refuse the first argument past a limit. -/
def checkArguments (limit : Option Nat) (arguments : List String) : Except CommandError Unit :=
  match limit with
  | none => .ok ()
  | some limit =>
    match arguments.drop limit with
    | [] => .ok ()
    | extra :: _ => .error (.unrecognizedArgument extra)

/-- The answer for something that is not remembered. -/
def notSet : String := "[not set]"

/-- The answer of a command that changed something. -/
def okay : String := "Okay."

/-- The help text. -/
def helpText : String :=
  "\n".intercalate
    ["usage: VALUE... INPUT_UNIT OUTPUT_UNIT...",
     "",
     "  1 in mm               convert 1 inch to millimetres",
     "  1 2 3 in mm cm        convert several values to several units",
     "  1 _kN lbf             '_' and a metric prefix before a unit name",
     "  : : :                 ':' recalls the last value or unit in its position",
     "  5 : _k:               prefixes work on recalled units too",
     "  \\_x                   backslash escapes a character in a unit name",
     "",
     "metric prefixes:",
     "  Y Z E P T G M k h D   1e24 .. 1e1",
     "  d c m u n p f a z y   1e-1 .. 1e-24",
     "",
     "commands:",
     "  format [s|d|v]        show or set the output format",
     "  value [NUMBER]        show or set the recalled value",
     "  input_unit [UNIT]     show or set the recalled input unit",
     "  output_unit [UNIT]    show or set the recalled output unit",
     "  units [TYPE]          list known units",
     "  help                  show this text",
     "  version               show the program version",
     "  exit, quit            leave the console"]

/-- Show or set the style. -/
def runFormat (session : Session) : List String → Except CommandError (Session × String)
  | [] => .ok (session, session.style.name)
  | name :: _ =>
    match OutputStyle.ofName name with
    | .ok style => .ok ({ session with style }, okay)
    | .error failure => .error (.unknownStyle failure)

/-- Show or set the remembered value. -/
def runValue (session : Session) : List String → Except CommandError (Session × String)
  | [] =>
    match session.remembered.value with
    | some number => .ok (session, formatNumber session.precision number)
    | none => .ok (session, notSet)
  | word :: _ =>
    match ValueExpression.read word with
    | .error error => .error (.conversion error)
    | .ok .recalled => .error .notLiteral
    | .ok (.literal number) =>
      .ok ({ session with remembered := session.remembered.rememberValue number }, okay)

/-- Show or set the unit remembered in a place. -/
def runUnit (slot : Slot) (session : Session) :
    List String → Except CommandError (Session × String)
  | [] =>
    match session.remembered.unitAt slot with
    | .error error => .error (.conversion error)
    | .ok (some recalled) => .ok (session, recalled.displayName)
    | .ok none => .ok (session, notSet)
  | word :: _ =>
    match UnitExpression.read word with
    | .error error => .error (.conversion error)
    | .ok (.literal name) =>
      match session.registry.lookup name with
      | none => .error (.unknownUnit name)
      | some unit =>
        match session.remembered.remember slot unit name with
        | .error error => .error (.conversion error)
        | .ok remembered => .ok ({ session with remembered }, okay)
    | .ok _ => .error .notLiteral

/-- List the units. -/
def runUnits (session : Session) (arguments : List String) :
    Except CommandError (Session × String) :=
  let quantity := if arguments.isEmpty then none else some (" ".intercalate arguments)
  match session.registry.listing quantity with
  | .ok lines => .ok (session, "\n".intercalate lines)
  | .error failure => .error (.unknownQuantity failure)

/-- Run the command. Gives the session after it and the answer. -/
def run (command : Command) (session : Session) (arguments : List String) :
    Except CommandError (Session × String) := do
  checkArguments command.argumentLimit arguments
  match command with
  | format => runFormat session arguments
  | value => runValue session arguments
  | inputUnit => runUnit .input session arguments
  | outputUnit => runUnit .output session arguments
  | units => runUnits session arguments
  | help => return (session, helpText)
  | version => return (session, versionText)

end Command

end UnitConversion

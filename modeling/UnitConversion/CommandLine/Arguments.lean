import UnitConversion.CommandLine.Word
import UnitConversion.Quantity
import UnitConversion.Text.Case
import UnitConversion.Text.Integer

/-!
# Arguments

What a command line asks for. The words are taken from first to last; the first mistake ends the
reading, and so does an option that only shows something. The words of the conversion stand
together: those after a further option are not expected.
-/

namespace UnitConversion.CommandLine

open Text

/-- What a command line asks for. -/
structure Arguments where
  /-- The style of results. -/
  style : Option OutputStyle
  /-- The precision of results, if the option is there; it may lack its value. -/
  precision : Option (Option Precision)
  /-- The settings file. -/
  config : Option String
  /-- The units file. -/
  units : Option String
  /-- The least important log lines to be shown; nothing when the option lacks its value. -/
  logLevel : Option LogLevel
  /-- The file with lines to take. -/
  batch : Option String
  /-- The file for the results. -/
  output : Option String
  /-- Results are not shown. -/
  quiet : Bool
  /-- The quantity whose units are listed; the empty name stands for all. -/
  listUnits : Option String
  /-- The words of the conversion. -/
  conversion : List String

/-- The arguments of an empty command line. -/
def Arguments.initial : Arguments :=
  ⟨none, none, none, none, some .warning, none, none, false, none, []⟩

/-- A mistake on the command line. -/
inductive UsageError
  /-- A long option may be several. -/
  | ambiguous (ambiguity : Ambiguity)
  /-- An option lacks its value. -/
  | valueMissing (flag : Flag)
  /-- An option takes no value and has one. -/
  | valueIgnored (flag : Flag) (text : String)
  /-- An option and one before it exclude each other. -/
  | excluded (flag other : Flag)
  /-- The precision is no integer. -/
  | precisionNotInteger (text : String)
  /-- The precision is out of range. -/
  | precisionRange
  /-- No log level has the name. -/
  | unknownLogLevel (name : String)
  /-- There are words that are not expected. -/
  | unrecognized (words : List String)
  /-- There are a conversion and a file with lines. -/
  | conversionWithBatch
  /-- No quantity has the name. -/
  | unknownQuantity (failure : UnknownQuantity)
deriving DecidableEq, Repr

/-- A mistake about an option, in words. -/
def aboutFlag (flag : Flag) (text : String) : String := s!"argument {flag.display}: {text}"

/-- The mistake in words. -/
def UsageError.message : UsageError → String
  | ambiguous ambiguity =>
    s!"ambiguous option: {ambiguity.word} could match " ++
      ", ".intercalate (ambiguity.flags.map Flag.longName)
  | valueMissing flag => aboutFlag flag "expected one argument"
  | valueIgnored flag text => aboutFlag flag ("ignored explicit argument " ++ quoted text)
  | excluded flag other => aboutFlag flag s!"not allowed with argument {other.display}"
  | precisionNotInteger text => aboutFlag .precision s!"not an integer: '{text}'"
  | precisionRange => aboutFlag .precision s!"must be within 1..{maxPrecision}"
  | unknownLogLevel name =>
    aboutFlag .logLevel (s!"invalid choice: {quoted name} (choose from " ++
      ", ".intercalate (LogLevel.all.map fun level => quoted level.name) ++ ")")
  | unrecognized words => "unrecognized arguments: " ++ " ".intercalate words
  | conversionWithBatch => "conversion arguments cannot be combined with --batch"
  | unknownQuantity failure => failure.message

/-- Why there are no arguments to act on. -/
inductive Stop
  /-- There is a mistake. -/
  | usage (error : UsageError)
  /-- The help text is asked for. -/
  | help
  /-- The version is asked for. -/
  | version
deriving DecidableEq, Repr

/-- An option with its value. -/
abbrev Setting := Flag × Option String

/-- What is taken from a word with options and the word after it. -/
structure Taken where
  /-- The options, in order. -/
  settings : List Setting
  /-- The word after it is the value of the last option. -/
  tookNext : Bool

namespace Taken

/-- An option to which nothing is attached, followed by an argument or not. -/
def bare (flag : Flag) (next : Option String) : Except UsageError Taken :=
  match flag.arity, next with
  | .withoutValue, _ => .ok ⟨[(flag, none)], false⟩
  | .withOptionalValue, none => .ok ⟨[(flag, none)], false⟩
  | .withValue, none => .error (.valueMissing flag)
  | _, some text => .ok ⟨[(flag, some text)], true⟩

/-- An option with a value attached. The separator as a value stands for none, even where a value is
needed. -/
def withValue (flag : Flag) (text : String) : Taken :=
  ⟨[(flag, if text = Word.separatorText then none else some text)], false⟩

/-- An option with a text after an equals sign. -/
def withText (flag : Flag) (text : String) : Except UsageError Taken :=
  if flag.arity = .withoutValue then .error (.valueIgnored flag text)
  else .ok (withValue flag text)

/-- The same with an option before the others. -/
def after (flag : Flag) (taken : Taken) : Taken :=
  { taken with settings := (flag, none) :: taken.settings }

/-- A short option with letters after it: they are its value or further options. -/
def withLetters (flag : Flag) (next : Option String) : List Char → Except UsageError Taken
  | [] => bare flag next
  | letter :: letters =>
    let text := String.ofList (letter :: letters)
    if flag.arity ≠ .withoutValue then .ok (withValue flag text)
    else
      match Flag.ofLetter? letter with
      | none => .error (.valueIgnored flag text)
      | some other => (withLetters other next letters).map (after flag)

/-- An option with what is attached to it. -/
def ofAttachment (flag : Flag) (next : Option String) : Attachment → Except UsageError Taken
  | .nothing => bare flag next
  | .equals text => withText flag text
  | .letters chars => withLetters flag next chars

end Taken

/-- A precision as it is written on the command line. -/
def readPrecision (text : String) : Except UsageError Precision :=
  match readInteger? text with
  | none => .error (.precisionNotInteger text)
  | some digits => (Precision.ofInt digits).mapError fun _ => .precisionRange

/-- A log level in any case. -/
def readLogLevel (text : String) : Except UsageError LogLevel :=
  let name := upper text
  match LogLevel.ofName? name with
  | some level => .ok level
  | none => .error (.unknownLogLevel name)

namespace Arguments

/-- Set the style, unless another one is set. -/
def setStyle (arguments : Arguments) (style : OutputStyle) : Except UsageError Arguments :=
  match arguments.style with
  | some other =>
    if other = style then .ok arguments else .error (.excluded (.style style) (.style other))
  | none => .ok { arguments with style := some style }

/-- Take in an option with its value. -/
def set (arguments : Arguments) : Setting → Except Stop Arguments
  | (.help, _) => .error .help
  | (.version, _) => .error .version
  | (.style style, _) => (arguments.setStyle style).mapError Stop.usage
  | (.precision, value) => do
    let precision ← (value.mapM readPrecision).mapError Stop.usage
    return { arguments with precision := some precision }
  | (.logLevel, value) => do
    let logLevel ← (value.mapM readLogLevel).mapError Stop.usage
    return { arguments with logLevel }
  | (.config, value) => .ok { arguments with config := value }
  | (.units, value) => .ok { arguments with units := value }
  | (.batch, value) => .ok { arguments with batch := some (value.getD "-") }
  | (.output, value) => .ok { arguments with output := value }
  | (.quiet, _) => .ok { arguments with quiet := true }
  | (.listUnits, value) => .ok { arguments with listUnits := some (value.getD "") }

/-- Take in options with their values, in order. -/
def setAll (arguments : Arguments) (settings : List Setting) : Except Stop Arguments :=
  settings.foldlM set arguments

end Arguments

/-- What is known between two words. -/
structure Progress where
  /-- The arguments so far. -/
  arguments : Arguments
  /-- The words of the conversion are past. -/
  conversionTaken : Bool
  /-- The words that are not expected. -/
  unexpected : List String

namespace Progress

/-- Take words that are no options and stand together. The first separator among the words of the
conversion is none of them. -/
def takePlain (progress : Progress) (texts : List String) : Progress :=
  if texts.isEmpty then progress
  else if progress.conversionTaken then
    { progress with unexpected := progress.unexpected ++ texts }
  else
    { progress with
      arguments := { progress.arguments with conversion := texts.erase Word.separatorText }
      conversionTaken := true }

/-- Take what a word with options gives. -/
def takeOptions (progress : Progress) (taken : Taken) : Except Stop Progress := do
  return { progress with arguments := ← progress.arguments.setAll taken.settings }

/-- The argument at the start of words, if one is there. -/
def nextArgument : List Word → Option String
  | .argument text :: _ => some text
  | _ => none

/-- Take words from first to last, after plain words that stand together, the last one first. -/
def takeWords (progress : Progress) (plain : List String) : List Word → Except Stop Progress
  | [] => .ok (progress.takePlain plain.reverse)
  | .argument text :: rest => progress.takeWords (text :: plain) rest
  | .separator :: rest => progress.takeWords (Word.separatorText :: plain) rest
  | .unknown text :: rest =>
    let progress := progress.takePlain plain.reverse
    { progress with unexpected := progress.unexpected ++ [text] }.takeWords [] rest
  | .option flag attachment :: rest => do
    let progress := progress.takePlain plain.reverse
    let taken ← (Taken.ofAttachment flag (nextArgument rest) attachment).mapError Stop.usage
    let progress ← progress.takeOptions taken
    if taken.tookNext then
      match rest with
      | _ :: further => progress.takeWords [] further
      | [] => progress.takeWords [] []
    else progress.takeWords [] rest

end Progress

/-- Read a command line. -/
def Arguments.read (texts : List String) : Except Stop Arguments := do
  let words ← (Word.ofTexts texts).mapError fun ambiguity => .usage (.ambiguous ambiguity)
  let progress ← (⟨.initial, false, []⟩ : Progress).takeWords [] words
  if !progress.unexpected.isEmpty then throw (.usage (.unrecognized progress.unexpected))
  return progress.arguments

end UnitConversion.CommandLine

import UnitConversion.Console.Command
import UnitConversion.Console.Transcript
import UnitConversion.Line

/-!
# The console

The console takes lines one by one. A line is a command or a conversion; a failing line is reported
and counted, and the console goes on with the next one.
-/

namespace UnitConversion

/-- The console between two lines. -/
structure Console where
  /-- The session that the lines work on. -/
  session : Session
  /-- How many lines failed. -/
  failures : Nat

/-- What comes of a line. -/
structure Turn where
  /-- The console after the line. -/
  console : Console
  /-- Whether the console takes a further line. -/
  goesOn : Bool
  /-- What the line writes. -/
  transcript : Transcript

/-- What comes of several lines. -/
structure Run where
  /-- The console after the lines. -/
  console : Console
  /-- What the lines write. -/
  transcript : Transcript
  /-- A line left the console, and those after it were not taken. -/
  left : Bool

namespace Console

/-- A console on which no line failed. -/
def start (session : Session) : Console := ⟨session, 0⟩

/-- A line that fails with the given message, after other pieces were written. -/
def fail (console : Console) (before : Transcript) (message : String) : Turn :=
  { console := { console with failures := console.failures + 1 }
    goesOn := true
    transcript := before ++ [.failure s!"error: {message}"] }

/-- The log line about words that failed. -/
def failedWords (words : List String) : Event := .log .debug ("failed: " ++ " ".intercalate words)

/-- The answer of a command; nothing for an empty one. -/
def replyEvents (text : String) : Transcript := if text.isEmpty then [] else [.reply text]

/-- Leave the console, unless there are arguments. -/
def leave (console : Console) (words arguments : List String) : Turn :=
  match Command.checkArguments (some 0) arguments with
  | .ok _ => ⟨console, false, []⟩
  | .error error => console.fail [failedWords words] error.message

/-- Run a command. -/
def command (console : Console) (words : List String) (command : Command)
    (arguments : List String) : Turn :=
  match command.run console.session arguments with
  | .ok (session, reply) => ⟨{ console with session }, true, replyEvents reply⟩
  | .error error => console.fail [failedWords words] error.message

/-- The log line about a finished line of conversions. -/
def summary (words : List String) : Transcript :=
  match Request.split words with
  | .ok split =>
    [.log .debug (s!"{split.values.length} value(s) x {split.outputs.length} unit(s) from " ++
      s!"'{split.input}'")]
  | .error _ => []

/-- Convert what the words of a line ask for. -/
def convert (console : Console) (words : List String) : Turn :=
  let (outcome, session, resolutions) :=
    console.session.perform (Request.convertLine console.session.registry words)
  let console := { console with session }
  let log := resolutions.map fun resolution => Event.log .debug resolution.message
  match outcome with
  | .ok conversions =>
    ⟨console, true,
      log ++ summary words ++
        conversions.map fun conversion => .result (session.format conversion)⟩
  | .error error => console.fail (log ++ [failedWords words]) error.message

/-- The words that leave the console. -/
def leavingWords : List String := ["exit", "quit"]

/-- Take a line that is split into words. -/
def executeWords (console : Console) (words : List String) : Turn :=
  match words with
  | [] => ⟨console, true, []⟩
  | word :: arguments =>
    if leavingWords.contains word then console.leave words arguments
    else
      match Command.ofWord? word with
      | some found => console.command words found arguments
      | none => console.convert words

/-- Take a line. -/
def execute (console : Console) (line : String) : Turn :=
  match Line.words line with
  | .error failure => console.fail [] s!"syntax error, {failure.message}"
  | .ok words => console.executeWords words

/-- Take lines until one leaves the console or they end. With a prompt it is written before each
line is read, and a line feed at the end of the lines. -/
def run (console : Console) (prompt : Option String) : List String → Run
  | [] =>
    match prompt with
    | some prompt => ⟨console, [.prompt prompt, .prompt "\n"], false⟩
    | none => ⟨console, [], false⟩
  | line :: rest =>
    let asked := prompt.toList.map Event.prompt
    let turn := console.execute line
    if turn.goesOn then
      let run := turn.console.run prompt rest
      { run with transcript := asked ++ turn.transcript ++ run.transcript }
    else ⟨turn.console, asked ++ turn.transcript, true⟩

end Console

end UnitConversion

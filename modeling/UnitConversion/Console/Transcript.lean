/-!
# Transcripts

What a program writes, piece by piece and in order. Where a piece goes is decided when the
transcript is read: results also go to the record, and do not go to the output of a quiet program.
-/

namespace UnitConversion

/-- How important a log line is. -/
inductive LogLevel
  | debug | info | warning | error
deriving DecidableEq, Repr

namespace LogLevel

/-- The name of the level. -/
def name : LogLevel → String
  | debug => "DEBUG"
  | info => "INFO"
  | warning => "WARNING"
  | error => "ERROR"

/-- All levels, the least important first. -/
def all : List LogLevel := [debug, info, warning, error]

/-- The level of the given name. -/
def ofName? (name : String) : Option LogLevel := all.find? (·.name == name)

/-- The rank of the level. -/
def rank : LogLevel → Nat
  | debug => 0
  | info => 1
  | warning => 2
  | error => 3

end LogLevel

/-- A piece of what a program writes. -/
inductive Event
  /-- A prompt, written as it is. -/
  | prompt (text : String)
  /-- A line that answers a command. -/
  | reply (text : String)
  /-- A line with the result of a conversion. -/
  | result (text : String)
  /-- A line about a failure. -/
  | failure (text : String)
  /-- A line of the log. -/
  | log (level : LogLevel) (text : String)
deriving DecidableEq, Repr

/-- What a program writes, in order. -/
abbrev Transcript := List Event

namespace Event

/-- What the piece adds to the output. -/
def out (quiet : Bool) : Event → String
  | prompt text => text
  | reply text => text ++ "\n"
  | result text => if quiet then "" else text ++ "\n"
  | failure _ => ""
  | log _ _ => ""

/-- What the piece adds to the errors, log lines apart. -/
def err : Event → String
  | failure text => text ++ "\n"
  | _ => ""

/-- What the piece adds to the errors when log lines from a level on are among them. -/
def errWithLog (least : LogLevel) : Event → String
  | failure text => text ++ "\n"
  | log level text => if least.rank ≤ level.rank then text ++ "\n" else ""
  | _ => ""

/-- What the piece adds to the record. -/
def record : Event → String
  | result text => text ++ "\n"
  | _ => ""

end Event

namespace Transcript

/-- What is written to the output. -/
def out (quiet : Bool) (transcript : Transcript) : String :=
  String.join (transcript.map (Event.out quiet))

/-- What is written to the errors, log lines apart. -/
def err (transcript : Transcript) : String := String.join (transcript.map Event.err)

/-- What is written to the errors, log lines from a level on among them. -/
def errWithLog (least : LogLevel) (transcript : Transcript) : String :=
  String.join (transcript.map (Event.errWithLog least))

/-- What is written to the record. -/
def record (transcript : Transcript) : String := String.join (transcript.map Event.record)

end Transcript

end UnitConversion

import UnitConversion.Files.Tree
import UnitConversion.Settings.Validation
import UnitConversion.Text.Utf8
import UnitConversion.Yaml.Fault

/-!
# Failing to start

What keeps the program from starting: a file that cannot be used is reported, everything else breaks
the program off.
-/

namespace UnitConversion

open Text

/-- A problem with a settings or a units file, to be reported. -/
inductive ConfigurationError
  /-- The file cannot be read. -/
  | unreadable (file : Path) (reason : String)
  /-- The settings file is no YAML. -/
  | malformedYaml (file : Path)
  /-- The settings are not accepted. -/
  | mistake (found : Settings.Mistake) (file : Option Path)
deriving DecidableEq, Repr

/-- The report. -/
def ConfigurationError.message : ConfigurationError → String
  | unreadable file reason => s!"unable to read configuration file {file.toString}: {reason}"
  | malformedYaml file => s!"invalid YAML in {file.toString}"
  | mistake found file => found.banner (file.map Path.toString)

/-- A failure for which there is no report. -/
inductive Breakdown
  /-- An integer has too many digits to be read. -/
  | overlongNumeral (refusal : TooManyDigits)
  /-- An integer has too many digits to be shown. -/
  | overlongInteger (refusal : TooManyDigits)
  /-- A file is not UTF-8. -/
  | undecodable (failure : DecodeFailure)
  /-- A scalar in the settings file has no value. -/
  | scalar (fault : Yaml.ValueFault)
  /-- A path starts in a home directory that is not known. -/
  | homeUnknown
  /-- A path cannot even be looked at. -/
  | unusablePath (fault : FileFault) (path : String)
  /-- The log level is asked for without a value. -/
  | logLevelMissing
  /-- The precision is asked for without a value. -/
  | precisionMissing
deriving DecidableEq, Repr

/-- The failure in words. -/
def Breakdown.message : Breakdown → String
  | overlongNumeral refusal => refusal.message
  | overlongInteger refusal => refusal.printMessage
  | undecodable failure => failure.message
  | scalar fault => fault.message
  | homeUnknown => "Could not determine home directory."
  | unusablePath .nameTooLong path => s!"[Errno 36] File name too long: {quoted path}"
  | unusablePath fault _ => fault.reason
  | logLevelMissing => "attribute name must be string, not 'list'"
  | precisionMissing => "'<=' not supported between instances of 'int' and 'list'"

/-- Why the program does not start. -/
inductive StartFailure
  /-- There is a problem to be reported. -/
  | reported (error : ConfigurationError)
  /-- The program breaks off. -/
  | brokenOff (breakdown : Breakdown)
deriving DecidableEq, Repr

namespace StartFailure

/-- A file that has to be read cannot be used. -/
def ofFileFault (path : String) : FileFault → StartFailure
  | .embeddedNull => .brokenOff (.unusablePath .embeddedNull path)
  | fault => .reported (.unreadable (.ofString path) fault.reason)

/-- The settings of a file are not accepted. -/
def ofRefusal (file : Path) : Settings.Refusal → StartFailure
  | .mistake mistake => .reported (.mistake mistake (some file))
  | .overlong refusal => .brokenOff (.overlongInteger refusal)

/-- A settings file has no data. -/
def ofYamlFault (file : Path) : Yaml.Fault → StartFailure
  | .malformed => .reported (.malformedYaml file)
  | .value fault => .brokenOff (.scalar fault)

end StartFailure

end UnitConversion

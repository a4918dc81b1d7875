import UnitConversion.CommandLine.Help
import UnitConversion.CommandLine.Startup
import UnitConversion.Console.Interpreter

/-!
# The program

A run of the program takes a command line, the variables and files it can see and the lines that are
typed, and gives an exit code, what was written and the files afterwards. It has two parts: the
launch, which ends the program or leaves a job to do, and the job.
-/

namespace UnitConversion.CommandLine

open Text

/-- What a run of the program leaves behind. -/
structure Finish where
  /-- The exit code, unless the program broke off. -/
  ending : Except Breakdown Nat
  /-- What was written to the output. -/
  out : String
  /-- What was written to the errors. -/
  err : String
  /-- The files afterwards. -/
  tree : FileTree

/-- What is shown of a transcript. -/
structure Display where
  /-- Results are not shown. -/
  quiet : Bool
  /-- The least important log lines that are shown. -/
  level : LogLevel

/-- What is shown unless the command line asks for something else. -/
def Display.standard : Display := ⟨false, .warning⟩

/-- The display that arguments ask for. -/
def Arguments.display (arguments : Arguments) : Except Breakdown Display :=
  match arguments.logLevel with
  | some level => .ok ⟨arguments.quiet, level⟩
  | none => .error .logLevelMissing

/-- The end of a run with a transcript. -/
def Display.finish (display : Display) (tree : FileTree) (transcript : Transcript)
    (ending : Except Breakdown Nat) : Finish :=
  { ending
    out := transcript.out display.quiet
    err := transcript.errWithLog display.level
    tree }

/-- A line about a mistake on the command line. The synopsis that is shown before it is left out. -/
def usageEvent (error : UsageError) : Event := .failure s!"ucon: error: {error.message}"

/-- The end of a run without arguments to act on. -/
def Stop.finish (tree : FileTree) : Stop → Finish
  | .usage error => Display.standard.finish tree [usageEvent error] (.ok 2)
  | .help => Display.standard.finish tree [.reply helpText] (.ok 0)
  | .version => Display.standard.finish tree [.reply versionText] (.ok 0)

/-- What the console is used for. -/
inductive Task
  /-- One conversion or command. -/
  | single (words : List String)
  /-- The lines of a file; a hyphen stands for the input. -/
  | batch (file : String)
  /-- The lines that are typed after a prompt. -/
  | prompted
deriving DecidableEq, Repr

/-- Work that the launch leaves to do. -/
structure Job where
  /-- What was logged before. -/
  log : Transcript
  /-- What is shown. -/
  display : Display
  /-- The console. -/
  console : Console
  /-- What it is used for. -/
  task : Task
  /-- The file for the results. -/
  record : Option String

/-- The task that arguments ask for. -/
def Arguments.task (arguments : Arguments) : Task :=
  if !arguments.conversion.isEmpty then .single arguments.conversion
  else
    match arguments.batch with
    | some file => .batch file
    | none => .prompted

/-- The end of a run that does not get past its startup. -/
def failedStart (display : Display) (tree : FileTree) (log : Transcript) : StartFailure → Finish
  | .reported error => display.finish tree (log ++ [.failure s!"ucon: {error.message}"]) (.ok 1)
  | .brokenOff breakdown => display.finish tree log (.error breakdown)

/-- The end of a run that lists units. -/
def unitListing (display : Display) (tree : FileTree) (log : Transcript) (registry : Registry)
    (name : String) : Finish :=
  match registry.listing (if name.isEmpty then none else some name) with
  | .ok lines => display.finish tree (log ++ [.reply ("\n".intercalate lines)]) (.ok 0)
  | .error failure =>
    display.finish tree (log ++ [usageEvent (.unknownQuantity failure)]) (.ok 2)

/-- Launch the program with arguments on a display: it ends, or there is a job to do. -/
def Arguments.launchOn (arguments : Arguments) (display : Display) (environment : Environment)
    (tree : FileTree) : Except Finish Job :=
  let (outcome, log) := (Startup.all environment tree arguments).run.run []
  match outcome, arguments.listUnits with
  | .error failure, _ => .error (failedStart display tree log failure)
  | .ok (_, registry), some name => .error (unitListing display tree log registry name)
  | .ok (settings, registry), none =>
    match arguments.session settings registry with
    | .error breakdown => .error (display.finish tree log (.error breakdown))
    | .ok session =>
      .ok { log, display
            console := .start session
            task := arguments.task
            record := arguments.output.filter fun path => !path.isEmpty }

/-- Launch the program with arguments. -/
def Arguments.launch (arguments : Arguments) (environment : Environment) (tree : FileTree) :
    Except Finish Job :=
  match arguments.display with
  | .error breakdown => .error (Display.standard.finish tree [] (.error breakdown))
  | .ok display =>
    if !arguments.conversion.isEmpty && arguments.batch.isSome then
      .error (Stop.finish tree (.usage .conversionWithBatch))
    else arguments.launchOn display environment tree

/-- What doing a task comes to. -/
structure Work where
  /-- The exit code, unless the program breaks off. -/
  ending : Except Breakdown Nat
  /-- What is written. -/
  transcript : Transcript

/-- The exit code after lines of which some failed. -/
def exitCode (failures : Nat) : Nat := if failures = 0 then 0 else 1

/-- What lines from a file come to. Where the file could not be read any further, the program breaks
off, unless a line before left the console. -/
def batchWork (console : Console) (lines : List String) (failure : Option DecodeFailure) : Work :=
  let run := console.run none lines
  match if run.left then none else failure with
  | some failure => ⟨.error (.undecodable failure), run.transcript⟩
  | none => ⟨.ok (exitCode run.console.failures), run.transcript⟩

/-- What a file that cannot be used comes to: a line with the reason and an exit code. -/
def refusedFile (action path : String) (fault : FileFault) : Work :=
  if fault = .embeddedNull then ⟨.error (.unusablePath fault path), []⟩
  else ⟨.ok 1, [.failure s!"ucon: cannot {action} {path}: {fault.reason}"]⟩

/-- The text of the prompt. -/
def promptText : String := "> "

/-- Do the task of a job, given the files and the lines of the input. -/
def Job.work (job : Job) (tree : FileTree) (input : List String) : Work :=
  match job.task with
  | .single words =>
    let turn := job.console.executeWords words
    ⟨.ok (exitCode turn.console.failures), turn.transcript⟩
  | .batch file =>
    if file = "-" then batchWork job.console input none
    else
      match tree.read file with
      | .error fault => refusedFile "read" file fault
      | .ok bytes =>
        let decoded := decode false bytes
        batchWork job.console decoded.lines decoded.failure
  | .prompted => ⟨.ok 0, (job.console.run (some promptText) input).transcript⟩

/-- Do a job. The file for the results is emptied before the task is begun. -/
def Job.finish (job : Job) (tree : FileTree) (input : List String) : Finish :=
  let ended (tree : FileTree) (work : Work) :=
    job.display.finish tree (job.log ++ work.transcript) work.ending
  match job.record with
  | none => ended tree (job.work tree input)
  | some path =>
    match tree.write path [] with
    | .error fault => ended tree (refusedFile "write" path fault)
    | .ok emptied =>
      let work := job.work emptied input
      let record := work.transcript.record.toUTF8.toList
      ended ((emptied.write path record).toOption.getD emptied) work

/-- Launch the program with a command line. -/
def launch (environment : Environment) (tree : FileTree) (words : List String) :
    Except Finish Job :=
  match Arguments.read words with
  | .error stop => .error (stop.finish tree)
  | .ok arguments => arguments.launch environment tree

/-- Run the program. -/
def run (environment : Environment) (tree : FileTree) (input : List String)
    (words : List String) : Finish :=
  match launch environment tree words with
  | .error finish => finish
  | .ok job => job.finish tree input

end UnitConversion.CommandLine

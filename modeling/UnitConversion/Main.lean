import UnitConversion.CommandLine.Footprint

/-!
# The executable

Takes a picture of the files that a run looks at, lets the run decide what to do, and does it.
-/

namespace UnitConversion.Executable

open CommandLine

/-- The variables that a run depends on. -/
def variableNames : List String :=
  ["HOME", Settings.homeVariable, Settings.settingsVariable, Settings.unitsVariable]

/-- The account on a line of the list of accounts. -/
def accountOfLine (line : String) : Option (String × String) :=
  match line.splitOn ":" with
  | [name, _, _, _, _, home, _] => some (name, home)
  | _ => none

/-- The accounts of the system. -/
def readAccounts : IO (List (String × String)) := do
  try
    return ((← IO.FS.readFile "/etc/passwd").splitOn "\n").filterMap accountOfLine
  catch _ => return []

/-- The variables and accounts that a run depends on. -/
def readEnvironment : IO Environment := do
  let bindings ← variableNames.filterMapM fun name => do
    return (← IO.getEnv name).map (name, ·)
  return ⟨bindings, ← readAccounts⟩

/-- What a path leads to. -/
def probe (path : String) : IO (Option FileEntry) := do
  try
    return some (.file (← IO.FS.readBinFile path).toList)
  catch
    | .inappropriateType .. => return some .directory
    | _ => return none

/-- The paths on the way to a path, and the path. -/
def pathsTo (path : Path) : List Path :=
  (List.range path.names.length).map fun count =>
    { path with names := path.names.take (count + 1) }

/-- Add to a tree what is on the way to a path. -/
def addPath (tree : FileTree) (path : String) : IO FileTree :=
  (pathsTo (.ofString path)).foldlM (fun tree path => do
    match tree.locate path.toString, ← probe path.toString with
    | .ok location, some entry => return tree.insert location entry
    | _, _ => return tree) tree

/-- The tree of the files that a run with arguments looks at. -/
def readTree (environment : Environment) (arguments : Arguments) : IO FileTree := do
  let known ← (arguments.paths environment .empty).foldlM addPath FileTree.empty
  (arguments.paths environment known).foldlM addPath known

/-- The bytes of the input from here on. -/
partial def readInput (stream : IO.FS.Stream) (before : ByteArray) : IO ByteArray := do
  let bytes ← stream.read 65536
  if bytes.isEmpty then return before else readInput stream (before ++ bytes)

/-- The lines of the input. -/
def inputLines : IO (List String) := do
  let bytes ← readInput (← IO.getStdin) .empty
  return (Text.decode false bytes.toList).lines

/-- Show a piece of a transcript. -/
def showTranscript (display : Display) (transcript : Transcript) : IO Unit := do
  IO.print (transcript.out display.quiet)
  IO.eprint (transcript.errWithLog display.level)

/-- Take lines after a prompt until one leaves the console or they end. Gives the results. -/
partial def converse (display : Display) (console : Console) (record : String) : IO String := do
  IO.print promptText
  (← IO.getStdout).flush
  let line ← (← IO.getStdin).getLine
  if line.isEmpty then
    IO.println ""
    return record
  let turn := console.execute line
  showTranscript display turn.transcript
  let record := record ++ turn.transcript.record
  if turn.goesOn then converse display turn.console record else return record

/-- Show what a run wrote and give its exit code. -/
def conclude (finish : Finish) : IO UInt32 := do
  IO.print finish.out
  IO.eprint finish.err
  match finish.ending with
  | .ok code => return UInt32.ofNat code
  | .error breakdown =>
    IO.eprintln s!"ucon: {breakdown.message}"
    return 1

/-- Write the file for the results. -/
def writeRecord (path : String) (bytes : List UInt8) : IO Unit :=
  IO.FS.writeBinFile path (ByteArray.mk bytes.toArray)

/-- Do a job whose lines are typed after a prompt. -/
def converseFor (job : Job) : IO UInt32 := do
  showTranscript job.display job.log
  if let some path := job.record then writeRecord path []
  let record ← converse job.display job.console ""
  if let some path := job.record then writeRecord path record.toUTF8.toList
  return 0

/-- Do a job. -/
def perform (tree : FileTree) (job : Job) : IO UInt32 := do
  let refused := job.record.any fun path => !(tree.write path []).isOk
  if job.task = .prompted && !refused then converseFor job
  else
    let input ← if job.task = .batch "-" && !refused then inputLines else pure []
    let finish := job.finish tree input
    if let some path := job.record then
      if let .ok bytes := finish.tree.read path then
        if !refused then writeRecord path bytes
    conclude finish

end UnitConversion.Executable

open UnitConversion UnitConversion.Executable UnitConversion.CommandLine in
/-- Run the program with the words of a command line. -/
def main (words : List String) : IO UInt32 := do
  match Arguments.read words with
  | .error stop => conclude (stop.finish .empty)
  | .ok arguments =>
    let environment ← readEnvironment
    let tree ← readTree environment arguments
    match arguments.launch environment tree with
    | .error finish => conclude finish
    | .ok job => perform tree job

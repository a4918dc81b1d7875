import UnitConversion.Proofs.ExitStatus
import UnitConversion.Proofs.ResultLines
import UnitConversion.Proofs.WrittenFiles

/-!
# Files of lines and files for results

A run that takes the lines of a file and writes the results to another one changes that one only,
and it holds the results afterwards. The file for the results is emptied before the lines are read,
so none are left when both paths lead to the same place.
-/

namespace UnitConversion

open Text Console

namespace CommandLine

variable {environment : Environment} {tree : FileTree} {words : List String}
  {arguments : Arguments} {display : Display} {settings : Settings} {registry : Registry}
  {session : Session} {job : Job} {finish : Finish} {file path : String} {bytes : List UInt8}
  {place : Location}

/-- A listing of units leaves the files as they are. -/
theorem tree_unitListing (display : Display) (tree : FileTree) (log : Transcript)
    (registry : Registry) (name : String) :
    (unitListing display tree log registry name).tree = tree := by
  unfold unitListing
  split <;> rfl

/-- So does a startup that fails. -/
theorem tree_failedStart (display : Display) (tree : FileTree) (log : Transcript)
    (failure : StartFailure) : (failedStart display tree log failure).tree = tree := by
  cases failure <;> rfl

/-- A launch that leaves no job leaves the files as they are. -/
theorem tree_of_launch (h : launch environment tree words = .error finish) :
    finish.tree = tree := by
  unfold launch at h
  split at h
  · rename_i stop hstop
    cases h
    cases stop <;> rfl
  · unfold Arguments.launch at h
    split at h
    · cases h
      rfl
    · split at h
      · cases h
        rfl
      · unfold Arguments.launchOn at h
        -- The outcome of the startup and its log are told apart first.
        split at h
        split at h
        · cases h
          exact tree_failedStart _ tree _ _
        · cases h
          exact tree_unitListing _ tree _ _ _
        · split at h
          · cases h
            rfl
          · contradiction

/-- A session that is asked for works on the registry, and nothing is recalled in it. -/
theorem Arguments.valid_of_session (h : arguments.session settings registry = .ok session) :
    session.Valid registry := by
  unfold Arguments.session at h
  dsimp only at h
  split at h
  · cases h
    exact ⟨rfl, Recall.valid_empty registry⟩
  · cases h
    exact ⟨rfl, Recall.valid_empty registry⟩
  · contradiction

/-- The run executes inputs on a console and writes their results to a place. -/
structure WritesResults (tree : FileTree) (display : Display) (console : Console)
    (place : Location) (inputs : List Console.Input) (finish : Finish) : Prop where
  /-- Behind lines of the log stands what the inputs write, and the exit status is by those of them
  that fail. -/
  executes : ∃ (log : Transcript) (after : FileTree), log.OnlyLog ∧
    finish = display.finish after (log ++ console.written inputs)
      (.ok (exitCode (console.failuresOf inputs)))
  /-- The place holds a file with the results. -/
  holds : finish.tree.entryAt? place =
    some (.file (Transcript.lined (console.resultsOf inputs)).toUTF8.toList)
  /-- There is a line for each result. -/
  separate : lines (Transcript.lined (console.resultsOf inputs)) =
    (console.resultsOf inputs).map (· ++ "\n")
  /-- Every other place holds what it held. -/
  others : ∀ other ≠ place, finish.tree.entryAt? other = tree.entryAt? other

/-- A job that has emptied the file at a place does its work then, and leaves what that records in
the file. -/
theorem Job.finish_of_place (hrecord : job.record = some path)
    (hends : path.endsWith "/" = false) (hplace : tree.locate path = .ok place)
    (hheld : tree.entryAt? place ≠ some .directory) (input : List String) :
    let emptied := tree.insert place (.file [])
    let work := job.work emptied input
    job.finish tree input = job.display.finish
      (emptied.insert place (.file work.transcript.record.toUTF8.toList))
      (job.log ++ work.transcript) work.ending := by
  have hwrite : tree.write path [] = .ok (tree.insert place (.file [])) :=
    FileTree.write_eq_ok.mpr ⟨hends, place, hplace, hheld, rfl⟩
  have hagain := FileTree.write_insert_self hends hheld hplace []
  unfold finish
  rw [hrecord]
  dsimp only
  rw [hwrite]
  dsimp only
  rw [hagain]
  rfl

/-- A job that takes the lines of a file and writes to another one executes the lines that it finds
when that is emptied. -/
theorem Job.writesResults (hlog : job.log.OnlyLog) (hfresh : job.console.failures = 0)
    (htask : job.task = .batch file) (hfile : file ≠ "-") (hrecord : job.record = some path)
    (valid : job.console.session.Valid registry) (hregistry : registry.OneLine)
    (hends : path.endsWith "/" = false) (hplace : tree.locate path = .ok place)
    (hheld : tree.entryAt? place ≠ some .directory)
    (hread : (tree.insert place (.file [])).read file = .ok bytes)
    (hutf8 : (decode false bytes).failure = none) (input : List String) :
    WritesResults tree job.display job.console place
      (executed (linesOf (decode false bytes).lines)) (job.finish tree input) := by
  have hreadable : (decode false bytes).failure.isNone = true := by
    rw [hutf8]
    rfl
  have hwork := Job.work_of_bytes htask hfile hread input
  rw [batchWork_of_readable hfresh (.inl hreadable), transcript_run] at hwork
  have hfinish := Job.finish_of_place hrecord hends hplace hheld input
  dsimp only at hfinish
  rw [hwork] at hfinish
  dsimp only at hfinish
  rw [(answered_written job.console _).record] at hfinish
  rw [hfinish]
  constructor
  · exact ⟨job.log, _, hlog, rfl⟩
  · exact FileTree.entryAt?_insert_self (FileTree.alwaysDirectory_eq_false hheld)
  · exact Transcript.lines_lined (oneLine_resultsOf valid hregistry _)
  · intro other hother
    exact (FileTree.entryAt?_insert_of_ne hother).trans (FileTree.entryAt?_insert_of_ne hother)

/-- What becomes of the lines of a file and of the files when a run writes results to a path. -/
structure ResultsFates (tree : FileTree) (job : Job) (file path : String) (held : List String)
    (finish : Finish) : Prop where
  /-- When the path cannot be written, nothing is executed and no file changes. That is reported,
  unless no file can have the path. -/
  refused : ∀ fault, tree.write path [] = .error fault →
    finish.tree = tree ∧ finish.out = "" ∧
      (fault ≠ .embeddedNull → finish.Reports job.display s!"cannot write {path}: {fault.reason}")
  /-- Else it leads to a place. When the file stands at another one, its lines are executed up to the
  first one that leaves the console; when it stands there, by whatever path, no line is. -/
  written : ∀ emptied, tree.write path [] = .ok emptied →
    ∃ place, tree.locate path = .ok place ∧
      (tree.locate file ≠ .ok place →
        WritesResults tree job.display job.console place (executed (linesOf held)) finish) ∧
      (tree.locate file = .ok place →
        WritesResults tree job.display job.console place [] finish)

/-- Nothing is found in an empty file. -/
theorem decode_nil : (decode false []).lines = [] ∧ (decode false []).failure = none := by
  decide +kernel

/-- A job does nothing when its file for the results cannot be written. -/
theorem Job.finish_of_refused {fault : FileFault} (hlog : job.log.OnlyLog)
    (hrecord : job.record = some path) (hwrite : tree.write path [] = .error fault)
    (input : List String) :
    let finish := job.finish tree input
    finish.tree = tree ∧ finish.out = "" ∧
      (fault ≠ .embeddedNull →
        finish.Reports job.display s!"cannot write {path}: {fault.reason}") := by
  have hfinish : job.finish tree input = job.display.finish tree
      (job.log ++ (refusedFile "write" path fault).transcript)
      (refusedFile "write" path fault).ending := by
    unfold finish
    rw [hrecord]
    dsimp only
    rw [hwrite]
  dsimp only
  rw [hfinish]
  by_cases hnull : fault = .embeddedNull
  · subst hnull
    have hquiet : (refusedFile "write" path .embeddedNull).transcript = [] := rfl
    rw [hquiet, List.append_nil]
    exact ⟨rfl, hlog.out _, fun hother => absurd rfl hother⟩
  · rw [refusedFile_of_fault hnull]
    have hreports := job.display.reports_finish tree hlog
      s!"cannot write {path}: {fault.reason}"
    exact ⟨rfl, hreports.out, fun _ => hreports⟩

/-- A job that takes the lines of a file and writes results has one of the fates. -/
theorem resultsFates_of_launch (hlaunch : launch environment tree words = .ok job)
    (htask : job.task = .batch file) (hfile : file ≠ "-") (hrecord : job.record = some path)
    (hread : tree.read file = .ok bytes) (hutf8 : (decode false bytes).failure = none)
    (input : List String) :
    ResultsFates tree job file path (decode false bytes).lines (job.finish tree input) := by
  obtain ⟨arguments, display, settings, registry, session, log, starts, hlog, hjob⟩ :=
    exists_starts_of_launch hlaunch
  have valid : job.console.session.Valid registry := by
    rw [hjob]
    exact Arguments.valid_of_session starts.session
  have hregistry := oneLine_of_startup starts.startup
  have hlogged := onlyLog_of_launch hlaunch
  have hfresh := failures_of_launch hlaunch
  constructor
  · intro fault hwrite
    exact Job.finish_of_refused hlogged hrecord hwrite input
  · intro emptied hwrite
    obtain ⟨hends, place, hplace, hheld, -⟩ := FileTree.write_eq_ok.mp hwrite
    refine ⟨place, hplace, fun hapart => ?_, fun hsame => ?_⟩
    · have hkept := FileTree.read_insert_of_ne hheld hapart hread []
      exact Job.writesResults hlogged hfresh htask hfile hrecord valid hregistry hends hplace hheld
        hkept hutf8 input
    · have hemptied := FileTree.read_insert_self hheld hsame []
      have hwrites := Job.writesResults hlogged hfresh htask hfile hrecord valid hregistry hends
        hplace hheld hemptied decode_nil.2 input
      rw [decode_nil.1] at hwrites
      exact hwrites

/-- Whatever words a program is run with, in whatever environment and among whatever files: no file
changes unless there is a job. When that takes the lines of a file and writes results to a path, the
file at the path changes alone, and it holds the results of the lines that are executed, each on a
line. These are the lines that the file held, unless the path leads to the same place: the file for
the results is emptied before the lines are read, so then none is executed. -/
theorem lines_are_read_behind_emptying (environment : Environment) (tree : FileTree)
    (input words : List String) :
    (∀ finish, launch environment tree words = .error finish →
      run environment tree input words = finish ∧ finish.tree = tree) ∧
    ∀ job file path bytes, launch environment tree words = .ok job →
      job.task = .batch file → file ≠ "-" → job.record = some path →
        tree.read file = .ok bytes → (decode false bytes).failure = none →
          ResultsFates tree job file path (decode false bytes).lines
            (run environment tree input words) := by
  constructor
  · intro finish hlaunch
    refine ⟨?_, tree_of_launch hlaunch⟩
    unfold run
    rw [hlaunch]
  · intro job file path bytes hlaunch htask hfile hrecord hread hutf8
    have hrun : run environment tree input words = job.finish tree input := by
      unfold run
      rw [hlaunch]
    rw [hrun]
    exact resultsFates_of_launch hlaunch htask hfile hrecord hread hutf8 input

/-- A line that is answered when the results go to another file is not executed and lost when they
go to its own file by another path, and the exit status is zero all the same. -/
theorem lines_are_lost_under_another_path :
    let tree : FileTree := ⟨[(["u.cfg"], .file []), (["f.txt"], .file "version\n".toUTF8.toList)]⟩
    let finish := fun path : String => run ⟨[("UCON_HOME", "h")], []⟩ tree []
      ["--units", "u.cfg", "--batch", "f.txt", "--output", path]
    (finish "g.txt").out = "ucon 1.0.0\n" ∧ (finish "g.txt").tree.read "f.txt" =
        .ok "version\n".toUTF8.toList ∧
      (finish "./f.txt").ending = .ok 0 ∧ (finish "./f.txt").out = "" ∧
      (finish "./f.txt").tree.read "f.txt" = .ok [] := by
  decide +kernel

end CommandLine

end UnitConversion

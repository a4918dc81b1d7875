import UnitConversion.Proofs.ConsoleRuns
import UnitConversion.Proofs.UnusableFiles

/-!
# The exit status of a run

A run that does one conversion or takes the lines of a file ends with an exit status of one when
something that it executes fails, and of zero otherwise.
-/

namespace UnitConversion

open Text Console

namespace CommandLine

/-- The lines that a file gives to a console: all of them when the file can be read to its end, or
to a line that leaves the console. -/
def linesOfFile? (tree : FileTree) (file : String) : Option (List String) :=
  match tree.read file with
  | .ok bytes =>
    let decoded := decode false bytes
    if decoded.failure.isNone || (linesOf decoded.lines).any Input.leaves then some decoded.lines
    else none
  | .error _ => none

/-- What a job executes on its console, among the files that it finds: its words, or the lines of
its file or of the input up to the first one that leaves the console. Nothing is said of lines that
are typed after a prompt, and of a file that cannot be read. -/
def Job.executed? (job : Job) (opened : FileTree) (input : List String) :
    Option (List Console.Input) :=
  match job.task with
  | .single words => some [.words words]
  | .batch file =>
    (if file = "-" then some input else linesOfFile? opened file).map fun lines =>
      executed (linesOf lines)
  | .prompted => none

/-- The exit status of a run that executes inputs: one if one of them fails, else zero. -/
structure EndsByFailures (console : Console) (inputs : List Console.Input)
    (ending : Except Breakdown Nat) : Prop where
  /-- It is one exactly when an input fails that is executed. -/
  one : ending = .ok 1 ↔ ∃ step ∈ console.steps inputs, step.1.fails step.2 = true
  /-- It is zero exactly when none fails. -/
  zero : ending = .ok 0 ↔ ∀ step ∈ console.steps inputs, step.1.fails step.2 = false

variable {console : Console} {job : Job} {environment : Environment} {tree opened : FileTree}
  {words input : List String} {inputs : List Console.Input}

/-- The exit code tells whether inputs fail. -/
theorem endsByFailures_exitCode (console : Console) (inputs : List Console.Input) :
    EndsByFailures console inputs (.ok (exitCode (console.failuresOf inputs))) := by
  have hnone : console.failuresOf inputs = 0 ↔
      ∀ step ∈ console.steps inputs, step.1.fails step.2 = false := by
    unfold failuresOf
    rw [List.countP_eq_zero]
    simp
  have hsome : ¬console.failuresOf inputs = 0 ↔
      ∃ step ∈ console.steps inputs, step.1.fails step.2 = true := by
    rw [hnone]
    simp
  unfold exitCode
  constructor
  · rw [← hsome]
    split <;> simp_all
  · rw [← hnone]
    split <;> simp_all

/-- A run leaves the console when one of its lines does. -/
theorem left_run (console : Console) (lines : List String) :
    (console.run none lines).left = (linesOf lines).any Input.leaves := by
  induction lines generalizing console with
  | nil => rfl
  | cons line rest ih =>
    cases hleaves : (Input.line line).leaves with
    | true => simp [run_cons_of_leaves hleaves, linesOf, hleaves]
    | false =>
      rw [run_cons_of_stays hleaves]
      dsimp only
      rw [ih]
      simp [linesOf, hleaves]

/-- The failures of a run on a fresh console are those of the lines that are executed. -/
theorem failures_run (hfresh : console.failures = 0) (lines : List String) :
    (console.run none lines).console.failures =
      console.failuresOf (executed (linesOf lines)) := by
  have hfold := (isFoldOf_run console lines).failures
  rw [hfresh] at hfold
  simpa using hfold

/-- What lines come to that can be read to their end, or to one that leaves the console. -/
theorem batchWork_of_readable (hfresh : console.failures = 0) {lines : List String}
    {failure : Option DecodeFailure}
    (h : failure.isNone = true ∨ (linesOf lines).any Input.leaves = true) :
    batchWork console lines failure =
      ⟨.ok (exitCode (console.failuresOf (executed (linesOf lines)))),
        (console.run none lines).transcript⟩ := by
  unfold batchWork
  dsimp only
  have hstop : (if (console.run none lines).left then none else failure) = none := by
    rcases h with hwhole | hleft
    · simp [Option.isNone_iff_eq_none.mp hwhole]
    · rw [left_run, hleft]
      rfl
  rw [hstop, ← failures_run hfresh]

/-- A file gives its lines when it can be read far enough. -/
theorem linesOfFile?_eq_some {file : String} {lines : List String}
    (h : linesOfFile? tree file = some lines) :
    ∃ bytes, tree.read file = .ok bytes ∧ lines = (decode false bytes).lines ∧
      ((decode false bytes).failure.isNone = true ∨
        (linesOf (decode false bytes).lines).any Input.leaves = true) := by
  unfold linesOfFile? at h
  cases hread : tree.read file with
  | error fault => simp [hread] at h
  | ok bytes =>
    simp only [hread, Option.ite_none_right_eq_some, Bool.or_eq_true, Option.some.injEq] at h
    exact ⟨bytes, rfl, h.2.symm, h.1⟩

/-- The work of a job ends by the failures of what it executes. -/
theorem endsByFailures_work (hfresh : job.console.failures = 0)
    (h : job.executed? opened input = some inputs) :
    EndsByFailures job.console inputs (job.work opened input).ending := by
  unfold Job.executed? at h
  unfold Job.work
  cases htask : job.task with
  | prompted =>
    rw [htask] at h
    contradiction
  | single words =>
    rw [htask] at h
    cases h
    have hfailures := failures_respond job.console (.words words)
    have hcount : job.console.failuresOf [.words words] =
        (job.console.executeWords words).console.failures := by
      change _ = (job.console.respond (.words words)).console.failures
      rw [hfailures, hfresh, Nat.zero_add]
      simp [failuresOf, steps, List.countP_cons]
    dsimp only
    rw [← hcount]
    exact endsByFailures_exitCode _ _
  | batch file =>
    rw [htask] at h
    dsimp only at h ⊢
    by_cases hfile : file = "-"
    · rw [if_pos hfile] at h ⊢
      cases h
      rw [batchWork_of_readable hfresh (.inl rfl)]
      exact endsByFailures_exitCode _ _
    · rw [if_neg hfile] at h ⊢
      obtain ⟨lines, hlines, rfl⟩ := Option.map_eq_some_iff.mp h
      obtain ⟨bytes, hread, rfl, hreadable⟩ := linesOfFile?_eq_some hlines
      rw [hread]
      dsimp only
      rw [batchWork_of_readable hfresh hreadable]
      exact endsByFailures_exitCode _ _

/-- Lines are executed as a fold, up to the first one that leaves the console, which is a matter of
the line alone; so a text may be cut behind any line and the parts run one after the other. The exit
status of a run of the program tells whether something failed that it executed. -/
theorem lines_are_folded_and_counted :
    (∀ (console : Console) (text : String), AreLinesOf (lines text) text ∧
      console.IsFoldOf (executed (linesOf (lines text))) (console.run none (lines text))) ∧
    (∀ (console : Console) (line : String),
      (console.execute line).goesOn = false ↔ (Input.line line).leaves = true) ∧
    (∀ (console : Console) (first second : String),
      (first = "" ∨ first.toList.getLast? = some '\n') →
      (∀ line ∈ lines first, (Input.line line).leaves = false) →
        let one := console.run none (lines first)
        let other := one.console.run none (lines second)
        let both := console.run none (lines (first ++ second))
        both = ⟨other.console, one.transcript ++ other.transcript, other.left⟩ ∧
          both.console.failures - console.failures =
            (one.console.failures - console.failures) +
              (other.console.failures - one.console.failures)) ∧
    (∀ (environment : Environment) (tree : FileTree) (input words : List String) (job : Job)
      (opened : FileTree) (inputs : List Console.Input),
      launch environment tree words = .ok job → job.opened? tree = some opened →
        job.executed? opened input = some inputs →
          EndsByFailures job.console inputs (run environment tree input words).ending) := by
  refine ⟨?_, ?_, ?_, ?_⟩
  · intro console text
    exact ⟨areLinesOf_lines text, isFoldOf_run console (lines text)⟩
  · intro console line
    exact goesOn_respond console (.line line)
  · intro console first second hended hstay
    dsimp only
    have hone := failures_le_run console (lines first)
    have hother := failures_le_run (console.run none (lines first)).console (lines second)
    rw [lines_append hended, run_append console hstay]
    exact ⟨rfl, by dsimp only; omega⟩
  · intro environment tree input words job opened inputs hlaunch hopened hexecuted
    obtain ⟨after, hfinish⟩ := Job.finish_of_opened hopened input
    have hrun : run environment tree input words = job.finish tree input := by
      unfold run
      rw [hlaunch]
    rw [hrun, hfinish]
    exact endsByFailures_work (failures_of_launch hlaunch) hexecuted

/-- A line that may not leave the console is refused and counts, and no line behind one that leaves
it is executed. -/
example :
    let tree : FileTree := ⟨[(["u.cfg"], .file []),
      (["b.txt"], .file "exit now\nexit\nbogus\n".toUTF8.toList)]⟩
    let finish := run ⟨[("UCON_HOME", "h")], []⟩ tree [] ["--units", "u.cfg", "--batch", "b.txt"]
    finish.ending = .ok 1 ∧ finish.err = "error: unrecognized argument: now\n" := by
  decide +kernel

end CommandLine

end UnitConversion

import UnitConversion.Proofs.ConsoleTurns
import UnitConversion.Proofs.TextLines

/-!
# Runs of a console

A run is the fold of the lines that it executes: those up to the first one that leaves the console,
and that one. Which line leaves the console does not depend on the console, so two texts may be run
one after the other or as one. What a run writes is what its lines write, and what it counts are
those of them that fail.
-/

namespace UnitConversion

namespace Console

/-- The input asks to leave the console: it is one of two words and nothing else. -/
def Input.leaves (input : Input) : Bool :=
  match input.words? with
  | .ok given => given == ["exit"] || given == ["quit"]
  | .error _ => false

/-- The inputs that are taken when the console stops at the first one that leaves it. -/
def executed (inputs : List Input) : List Input :=
  inputs.take (inputs.findIdx Input.leaves + 1)

/-- The lines of a text, as inputs of a console. -/
def linesOf (lines : List String) : List Input := lines.map Input.line

/-- Inputs with the consoles that are given them, each one as the inputs before have left it. -/
def steps (console : Console) : List Input → List (Console × Input)
  | [] => []
  | input :: rest => (console, input) :: (console.take input).steps rest

/-- The input fails: there is a reason why the console refuses it. -/
def fails (console : Console) (input : Input) : Bool := (console.failure? input).isSome

/-- How many of the inputs fail. -/
def failuresOf (console : Console) (inputs : List Input) : Nat :=
  (console.steps inputs).countP fun step => step.1.fails step.2

end Console

/-- The run in which nothing is taken. -/
def Run.begin (console : Console) : Run := ⟨console, [], false⟩

/-- The run with one more input taken. -/
def Run.take (run : Run) (input : Console.Input) : Run :=
  let turn := run.console.respond input
  ⟨turn.console, run.transcript ++ turn.transcript, !turn.goesOn⟩

namespace Console

variable {console : Console}

/-- A console that is given an input is left as its turn says. -/
theorem take_eq (console : Console) (input : Input) :
    console.take input = (console.respond input).console := by
  cases input <;> rfl

variable {words : List String} {turn : Turn} {refusal : Option CommandError}

/-- A turn for words that are refused counts one failure, any other none. -/
theorem Settles.failures (settles : console.Settles words turn refusal) :
    turn.console.failures = console.failures + (if refusal.isSome then 1 else 0) := by
  cases refusal with
  | none => exact Succeeds.failures settles
  | some error => exact settles.2.failures

/-- Words that leave the console are not refused, and only these leave it. -/
theorem goesOn_executeWords (console : Console) (words : List String) :
    (console.executeWords words).goesOn = false ↔ words = ["exit"] ∨ words = ["quit"] := by
  have hsettles := settles_executeWords console words
  cases hrefusal : console.refusal? words with
  | none =>
    rw [hrefusal] at hsettles
    exact hsettles.goesOn
  | some error =>
    rw [hrefusal] at hsettles
    have hstays : (console.executeWords words).goesOn = true := hsettles.2.goesOn
    refine iff_of_false (by simp [hstays]) ?_
    rintro (rfl | rfl) <;> contradiction

/-- Whether an input leaves the console is a matter of the input alone. -/
theorem goesOn_respond (console : Console) (input : Input) :
    (console.respond input).goesOn = false ↔ input.leaves = true := by
  rw [respond_eq]
  unfold Input.leaves
  cases input.words? with
  | error failure => exact iff_of_false (by simp [fail]) Bool.false_ne_true
  | ok given => simpa using goesOn_executeWords console given

/-- A failing input counts as one failure, any other as none. -/
theorem failures_respond (console : Console) (input : Input) :
    (console.respond input).console.failures =
      console.failures + (if console.fails input then 1 else 0) := by
  rw [respond_eq]
  unfold fails failure?
  cases input.words? with
  | error failure => rfl
  | ok given => simpa using (settles_executeWords console given).failures

/-- The first input is taken, and those after it unless it leaves the console. -/
theorem executed_cons (input : Input) (rest : List Input) :
    executed (input :: rest) = input :: if input.leaves then [] else executed rest := by
  unfold executed
  rw [List.findIdx_cons]
  cases input.leaves with
  | true => simp
  | false => simp

/-- A run ends with a line that leaves the console. -/
theorem run_cons_of_leaves {line : String} (h : (Input.line line).leaves = true)
    (console : Console) (rest : List String) :
    console.run none (line :: rest) =
      ⟨(console.execute line).console, (console.execute line).transcript, true⟩ := by
  have hgoes : (console.execute line).goesOn = false :=
    (goesOn_respond console (.line line)).mpr h
  simp [run, hgoes]

/-- A run goes on behind any other line. -/
theorem run_cons_of_stays {line : String} (h : (Input.line line).leaves = false)
    (console : Console) (rest : List String) :
    console.run none (line :: rest) =
      let later := (console.execute line).console.run none rest
      ⟨later.console, (console.execute line).transcript ++ later.transcript, later.left⟩ := by
  have hgoes : (console.execute line).goesOn = true := by
    have hleaves : (console.execute line).goesOn = false ↔ _ :=
      goesOn_respond console (.line line)
    simpa [h] using hleaves
  simp [run, hgoes]

/-- A run is the fold of the lines that are executed, whatever was taken before. -/
theorem foldl_take_executed (console : Console) (before : Transcript) (lines : List String) :
    (executed (linesOf lines)).foldl Run.take ⟨console, before, false⟩ =
      ⟨(console.run none lines).console, before ++ (console.run none lines).transcript,
        (console.run none lines).left⟩ := by
  induction lines generalizing console before with
  | nil => simp [linesOf, executed, run]
  | cons line rest ih =>
    have hturn : Run.take ⟨console, before, false⟩ (.line line) =
        ⟨(console.execute line).console, before ++ (console.execute line).transcript,
          !(console.execute line).goesOn⟩ := rfl
    have hgoes := goesOn_respond console (.line line)
    change (console.execute line).goesOn = false ↔ _ at hgoes
    rw [linesOf, List.map_cons, executed_cons, List.foldl_cons, hturn]
    cases hleaves : (Input.line line).leaves with
    | true =>
      rw [hgoes.mpr hleaves, run_cons_of_leaves hleaves]
      rfl
    | false =>
      have hstays : (console.execute line).goesOn = true := by simpa [hleaves] using hgoes
      have hrest := ih (console.execute line).console
        (before ++ (console.execute line).transcript)
      rw [run_cons_of_stays hleaves, hstays, if_neg Bool.false_ne_true, Bool.not_true]
      rw [List.append_assoc] at hrest
      exact hrest

/-- The console after a run is left as the inputs leave it. -/
theorem console_foldl_take (run : Run) (inputs : List Input) :
    (inputs.foldl Run.take run).console = run.console.takeAll inputs := by
  induction inputs generalizing run with
  | nil => rfl
  | cons input rest ih =>
    rw [List.foldl_cons, ih]
    unfold takeAll
    rw [List.foldl_cons, take_eq]
    rfl

/-- A run writes what its turns write, one behind the other. -/
theorem transcript_foldl_take (run : Run) (inputs : List Input) :
    (inputs.foldl Run.take run).transcript = run.transcript ++
      (run.console.steps inputs).flatMap fun step => (step.1.respond step.2).transcript := by
  induction inputs generalizing run with
  | nil => simp [steps]
  | cons input rest ih =>
    have hconsole : (run.take input).console = run.console.take input :=
      (take_eq run.console input).symm
    have htranscript : (run.take input).transcript =
        run.transcript ++ (run.console.respond input).transcript := rfl
    rw [List.foldl_cons, ih, hconsole, htranscript, steps, List.flatMap_cons, List.append_assoc]

/-- Every input that fails is counted once. -/
theorem failures_takeAll (console : Console) (inputs : List Input) :
    (console.takeAll inputs).failures = console.failures + console.failuresOf inputs := by
  induction inputs generalizing console with
  | nil => rfl
  | cons input rest ih =>
    have hrest := ih (console.take input)
    have hinput := failures_respond console input
    rw [← take_eq] at hinput
    have htake : console.takeAll (input :: rest) = (console.take input).takeAll rest := rfl
    have hcount : console.failuresOf (input :: rest) =
        (console.take input).failuresOf rest + (if console.fails input then 1 else 0) := by
      unfold failuresOf
      rw [steps, List.countP_cons]
    rw [htake, hrest, hinput, hcount]
    omega

/-- A run is the fold of inputs: it takes one after the other, each with the console that the one
before has left, and comes to nothing but what they come to. -/
structure IsFoldOf (start : Console) (inputs : List Input) (run : Run) : Prop where
  /-- The inputs are taken one after the other. -/
  fold : run = inputs.foldl Run.take (Run.begin start)
  /-- The console, with its session, is left as the inputs leave it. -/
  console : run.console = start.takeAll inputs
  /-- The output is that of the turns. -/
  out : ∀ quiet, run.transcript.out quiet = String.join
    ((start.steps inputs).map fun step => (step.1.respond step.2).transcript.out quiet)
  /-- The messages are those of the turns. -/
  err : run.transcript.err = String.join
    ((start.steps inputs).map fun step => (step.1.respond step.2).transcript.err)
  /-- The record is that of the turns. -/
  record : run.transcript.record = String.join
    ((start.steps inputs).map fun step => (step.1.respond step.2).transcript.record)
  /-- The inputs that fail are counted. -/
  failures : run.console.failures - start.failures = start.failuresOf inputs

/-- What pieces of several transcripts add is what each transcript adds. -/
theorem join_map_flatMap {α : Type} (part : Event → String) (items : List α)
    (transcript : α → Transcript) :
    String.join ((items.flatMap transcript).map part) =
      String.join (items.map fun item => String.join ((transcript item).map part)) := by
  induction items with
  | nil => rfl
  | cons item items ih =>
    rw [List.flatMap_cons, List.map_append, String.join_append, ih, List.map_cons,
      String.join_cons]

/-- Taking inputs one after the other is a fold of them. -/
theorem isFoldOf_foldl (console : Console) (inputs : List Input) :
    console.IsFoldOf inputs (inputs.foldl Run.take (Run.begin console)) := by
  have hconsole := console_foldl_take (Run.begin console) inputs
  have htranscript : (inputs.foldl Run.take (Run.begin console)).transcript =
      (console.steps inputs).flatMap fun step => (step.1.respond step.2).transcript :=
    transcript_foldl_take (Run.begin console) inputs
  have hfailures := failures_takeAll console inputs
  constructor
  · rfl
  · exact hconsole
  · intro quiet
    rw [htranscript]
    exact join_map_flatMap _ _ _
  · rw [htranscript]
    exact join_map_flatMap _ _ _
  · rw [htranscript]
    exact join_map_flatMap _ _ _
  · rw [hconsole]
    change (console.takeAll inputs).failures - console.failures = _
    omega

/-- A run of lines is the fold of those that are executed. -/
theorem isFoldOf_run (console : Console) (lines : List String) :
    console.IsFoldOf (executed (linesOf lines)) (console.run none lines) := by
  have hfold : (executed (linesOf lines)).foldl Run.take (Run.begin console) =
      console.run none lines := foldl_take_executed console [] lines
  rw [← hfold]
  exact isFoldOf_foldl console _

/-- Lines of which none leaves the console are run before others as a part of them. -/
theorem run_append (console : Console) {first : List String}
    (h : ∀ line ∈ first, (Input.line line).leaves = false) (second : List String) :
    console.run none (first ++ second) =
      let one := console.run none first
      let other := one.console.run none second
      ⟨other.console, one.transcript ++ other.transcript, other.left⟩ := by
  induction first generalizing console with
  | nil => simp [run]
  | cons line rest ih =>
    have hline := h line List.mem_cons_self
    have hrest := ih (console.execute line).console fun other hin =>
      h other (List.mem_cons_of_mem _ hin)
    rw [List.cons_append, run_cons_of_stays hline, run_cons_of_stays hline, hrest]
    simp only [List.append_assoc]

/-- A run never takes a failure back. -/
theorem failures_le_run (console : Console) (lines : List String) :
    console.failures ≤ (console.run none lines).console.failures := by
  rw [(isFoldOf_run console lines).console, failures_takeAll]
  omega

end Console

end UnitConversion

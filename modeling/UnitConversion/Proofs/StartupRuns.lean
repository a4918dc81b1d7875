import UnitConversion.CommandLine.Program
import UnitConversion.Proofs.ConsoleTurns

/-!
# Runs of the startup

The startup writes log lines and nothing else, and its log has no part in what comes of it: settings
and units are found and read, or there is a failure. A failure ends the run, with a report or
without one.
-/

namespace UnitConversion.CommandLine

open Text

namespace Startup

variable {α β : Type}

/-- The step comes to the outcome wherever it starts, and writes nothing but log lines. -/
def ComesTo (step : Startup α) (outcome : Except StartFailure α) : Prop :=
  ∀ before : Transcript, before.OnlyLog →
    ∃ after : Transcript, after.OnlyLog ∧ step.run.run before = (outcome, after)

/-- A step that only gives a value. -/
theorem comesTo_pure (value : α) : ComesTo (pure value) (.ok value) :=
  fun before hbefore => ⟨before, hbefore, rfl⟩

/-- A step that leaves no line comes to its outcome. -/
theorem comesTo_ofExcept (outcome : Except StartFailure α) :
    ComesTo (ofExcept outcome) outcome := by
  intro before hbefore
  cases outcome with
  | ok value => exact ⟨before, hbefore, rfl⟩
  | error failure => exact ⟨before, hbefore, rfl⟩

/-- A line is added to the log. -/
theorem comesTo_log (level : LogLevel) (text : String) : ComesTo (log level text) (.ok ()) := by
  intro before hbefore
  refine ⟨before ++ [.log level text], hbefore.append ?_, rfl⟩
  simp [Transcript.OnlyLog, Event.isLog]

/-- A sequence of two steps comes to the sequence of their outcomes. -/
theorem ComesTo.bind {first : Startup α} {next : α → Startup β} {outcome : Except StartFailure α}
    {later : α → Except StartFailure β} (hfirst : ComesTo first outcome)
    (hnext : ∀ value, ComesTo (next value) (later value)) :
    ComesTo (first >>= next) (outcome >>= later) := by
  intro before hbefore
  obtain ⟨between, hbetween, hrun⟩ := hfirst before hbefore
  have hbind : (first >>= next).run.run before =
      match first.run.run before with
      | (.ok value, after) => (next value).run.run after
      | (.error failure, after) => (.error failure, after) := by
    rw [ExceptT.run_bind, StateT.run_bind]
    cases first.run.run before with
    | mk result after => cases result <;> rfl
  rw [hbind, hrun]
  cases outcome with
  | ok value => exact hnext value between hbetween
  | error failure => exact ⟨between, hbetween, rfl⟩

/-- Lines for items are added to the log one by one. -/
theorem comesTo_forM_log {item : Type} (items : List item) (level : LogLevel)
    (text : item → String) :
    ComesTo (items.forM fun entry => log level (text entry)) (.ok ()) := by
  induction items with
  | nil => exact comesTo_pure ()
  | cons entry items ih => exact (comesTo_log level (text entry)).bind fun _ => ih

/-- Loading the settings comes to what the settings are, whatever is logged. -/
theorem comesTo_settings (environment : Environment) (tree : FileTree)
    (argument : Option String) :
    ComesTo (settings environment tree argument) (Settings.load environment tree argument) := by
  unfold settings Settings.load
  refine (comesTo_ofExcept _).bind fun found => ?_
  cases found with
  | none => exact (comesTo_log _ _).bind fun _ => comesTo_pure _
  | some file => exact (comesTo_log _ _).bind fun _ => comesTo_ofExcept _

/-- Loading the units comes to the registry that is read, whatever is logged. -/
theorem comesTo_units (tree : FileTree) (source : UnitsFile.Source) :
    ComesTo (units tree source)
      ((source.read tree).outcome >>= fun loaded => .ok loaded.registry) := by
  have hcounted : ∀ (counts : Bool) (text : String) (registry : Registry),
      ComesTo (do if counts then log .info text
                  return registry) (.ok registry) := by
    intro counts text registry
    cases counts with
    | true => exact (comesTo_log _ _).bind fun _ => comesTo_pure registry
    | false => exact comesTo_pure registry
  have hread : ComesTo (do
      let loaded ← ofExcept (source.read tree).outcome
      log .info s!"Loaded {loaded.registry.units.length} units from {source.name}"
      if !(source.read tree).warnings.isEmpty then
        log .info s!"{(source.read tree).warnings.length} warning(s) in {source.name}"
      return loaded.registry)
      ((source.read tree).outcome >>= fun loaded => .ok loaded.registry) :=
    (comesTo_ofExcept _).bind fun loaded =>
      (comesTo_log _ _).bind fun _ => hcounted _ _ loaded.registry
  exact (comesTo_log _ _).bind fun _ => (comesTo_forM_log _ _ _).bind fun _ => hread

/-- What the startup comes to: the settings and the units, or a failure. -/
def outcome (environment : Environment) (tree : FileTree) (arguments : Arguments) :
    Except StartFailure (Settings × Registry) := do
  let settings ← Settings.load environment tree arguments.config
  let source ← UnitsFile.find environment tree arguments.units (some settings)
  let registry ← (source.read tree).outcome >>= fun loaded => .ok loaded.registry
  return (settings, registry)

/-- The startup comes to its outcome. -/
theorem comesTo_all (environment : Environment) (tree : FileTree) (arguments : Arguments) :
    ComesTo (all environment tree arguments) (outcome environment tree arguments) :=
  (comesTo_settings environment tree arguments.config).bind fun settings =>
    (comesTo_ofExcept _).bind fun source =>
      (comesTo_units tree source).bind fun registry => comesTo_pure (settings, registry)

end Startup

/-- The words are accepted: they ask for something and tell how it is shown, and there is no
conversion among them together with a file of lines. -/
structure Accepts (words : List String) (arguments : Arguments) (display : Display) : Prop where
  /-- The words are read. -/
  read : Arguments.read words = .ok arguments
  /-- They tell how it is shown. -/
  shown : arguments.display = .ok display
  /-- There is no conversion together with a file of lines. -/
  exclusive : arguments.conversion = [] ∨ arguments.batch = none

variable {words : List String} {arguments : Arguments} {display : Display}

/-- Words that are accepted launch the program on their display. -/
theorem Accepts.launch_eq (accepts : Accepts words arguments display) (environment : Environment)
    (tree : FileTree) :
    launch environment tree words = arguments.launchOn display environment tree := by
  have hexclusive : (!arguments.conversion.isEmpty && arguments.batch.isSome) = false := by
    rcases accepts.exclusive with hnone | hnone <;> simp [hnone]
  simp only [launch, accepts.read, Arguments.launch, accepts.shown, hexclusive, Bool.false_eq_true,
    if_false]

/-- A run whose startup fails ends there. -/
theorem Accepts.run_of_failed_startup (accepts : Accepts words arguments display)
    {environment : Environment} {tree : FileTree} {failure : StartFailure}
    (h : Startup.outcome environment tree arguments = .error failure) (input : List String) :
    ∃ log : Transcript, log.OnlyLog ∧
      run environment tree input words = failedStart display tree log failure := by
  obtain ⟨log, hlog, hrun⟩ :=
    Startup.comesTo_all environment tree arguments [] Transcript.onlyLog_nil
  refine ⟨log, hlog, ?_⟩
  unfold run
  rw [accepts.launch_eq]
  unfold Arguments.launchOn
  rw [hrun, h]

/-- The run ends with a report: the exit status is one, a message stands on the errors behind lines
of the log, and nothing is written to the output. -/
structure Finish.Reports (finish : Finish) (display : Display) (message : String) : Prop where
  /-- The exit status is one. -/
  ending : finish.ending = .ok 1
  /-- The message stands behind lines of the log. -/
  err : ∃ log : Transcript, log.OnlyLog ∧
    finish.err = log.errWithLog display.level ++ (s!"ucon: {message}" ++ "\n")
  /-- Nothing is written to the output. -/
  out : finish.out = ""

/-- One message behind lines of the log is a report. -/
theorem Display.reports_finish (display : Display) (tree : FileTree) {log : Transcript}
    (hlog : log.OnlyLog) (message : String) :
    (display.finish tree (log ++ [.failure s!"ucon: {message}"]) (.ok 1)).Reports display
      message where
  ending := rfl
  err := ⟨log, hlog, by simp [finish, Transcript.errWithLog, Event.errWithLog]⟩
  out := by
    unfold finish
    dsimp only
    rw [Transcript.out_append, hlog.out, String.empty_append]
    rfl

/-- A failure that is reported ends the run with its message and leaves the files alone. -/
theorem Accepts.reports_of_failed_startup (accepts : Accepts words arguments display)
    {environment : Environment} {tree : FileTree} {error : ConfigurationError}
    (h : Startup.outcome environment tree arguments = .error (.reported error))
    (input : List String) :
    (run environment tree input words).Reports display error.message ∧
      (run environment tree input words).tree = tree := by
  obtain ⟨log, hlog, hrun⟩ := accepts.run_of_failed_startup h input
  rw [hrun]
  exact ⟨display.reports_finish tree hlog error.message, rfl⟩

/-- Any other failure breaks the run off. -/
theorem Accepts.breaksOff_of_failed_startup (accepts : Accepts words arguments display)
    {environment : Environment} {tree : FileTree} {breakdown : Breakdown}
    (h : Startup.outcome environment tree arguments = .error (.brokenOff breakdown))
    (input : List String) :
    (run environment tree input words).ending = .error breakdown := by
  obtain ⟨log, -, hrun⟩ := accepts.run_of_failed_startup h input
  rw [hrun]
  rfl

/-- The words are accepted and ask for more than a list of units, and the startup succeeds: settings
and units are loaded, and there is a session for them. -/
structure Starts (environment : Environment) (tree : FileTree) (words : List String)
    (arguments : Arguments) (display : Display) (settings : Settings) (registry : Registry)
    (session : Session) : Prop where
  /-- The words are accepted. -/
  accepts : Accepts words arguments display
  /-- No list of units is asked for. -/
  noListing : arguments.listUnits = none
  /-- Settings and units are loaded. -/
  startup : Startup.outcome environment tree arguments = .ok (settings, registry)
  /-- There is a session for them. -/
  session : arguments.session settings registry = .ok session

/-- The job that arguments leave to do with a session. -/
def Arguments.job (arguments : Arguments) (display : Display) (session : Session)
    (log : Transcript) : Job where
  log := log
  display := display
  console := .start session
  task := arguments.task
  record := arguments.output.filter fun path => !path.isEmpty

section Starts

variable {environment : Environment} {tree : FileTree} {settings : Settings}
  {registry : Registry} {session : Session} {job : Job}

/-- A startup that succeeds leaves the job that the arguments ask for. -/
theorem Starts.launch_eq
    (starts : Starts environment tree words arguments display settings registry session) :
    ∃ log : Transcript, log.OnlyLog ∧
      launch environment tree words = .ok (arguments.job display session log) := by
  obtain ⟨log, hlog, hrun⟩ :=
    Startup.comesTo_all environment tree arguments [] Transcript.onlyLog_nil
  refine ⟨log, hlog, ?_⟩
  rw [starts.accepts.launch_eq]
  unfold Arguments.launchOn
  rw [hrun, starts.startup, starts.noListing]
  dsimp only
  rw [starts.session]
  rfl

/-- A job is only left by a startup that succeeds. -/
theorem exists_starts_of_launch (h : launch environment tree words = .ok job) :
    ∃ arguments display settings registry session log,
      Starts environment tree words arguments display settings registry session ∧
        log.OnlyLog ∧ job = Arguments.job arguments display session log := by
  unfold launch at h
  split at h
  · contradiction
  · rename_i found hread
    unfold Arguments.launch at h
    split at h
    · contradiction
    · rename_i shown hshown
      split at h
      · contradiction
      · rename_i hexclusive
        have accepts : Accepts words found shown := by
          refine ⟨hread, hshown, ?_⟩
          by_cases hnone : found.conversion = []
          · exact .inl hnone
          · exact .inr (by simpa [hnone] using hexclusive)
        obtain ⟨log, hlog, hrun⟩ :=
          Startup.comesTo_all environment tree found [] Transcript.onlyLog_nil
        unfold Arguments.launchOn at h
        rw [hrun] at h
        dsimp only at h
        split at h
        · contradiction
        · contradiction
        · rename_i settings registry hstartup hlisting
          split at h
          · contradiction
          · rename_i session hsession
            cases h
            exact ⟨found, shown, settings, registry, session, log,
              ⟨accepts, hlisting, hstartup, hsession⟩, hlog, rfl⟩

/-- What is logged before a job is nothing but log lines. -/
theorem onlyLog_of_launch (h : launch environment tree words = .ok job) : job.log.OnlyLog := by
  obtain ⟨-, -, -, -, -, log, -, hlog, rfl⟩ := exists_starts_of_launch h
  exact hlog

/-- No line has failed before a job. -/
theorem failures_of_launch (h : launch environment tree words = .ok job) :
    job.console.failures = 0 := by
  obtain ⟨-, -, -, -, -, -, -, -, rfl⟩ := exists_starts_of_launch h
  rfl

end Starts

end UnitConversion.CommandLine

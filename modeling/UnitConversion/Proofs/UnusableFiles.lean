import UnitConversion.Proofs.StartupRuns

/-!
# Files that cannot be used

What becomes of a run whose settings file, units file or file of lines cannot be used. A file that
is missing or a directory is reported, whichever of the three it is. One that is not UTF-8 is
reported when it is the units file, and else the run breaks off.
-/

namespace UnitConversion

open Text

/-- Whether a path leads to a file can be told from the reading of it. -/
theorem FileTree.isFile_eq (tree : FileTree) (path : Path) :
    tree.isFile path =
      match tree.read path.toString with
      | .ok _ => .ok true
      | .error .nameTooLong => .error .nameTooLong
      | .error _ => .ok false := by
  unfold isFile read
  cases tree.status path.toString with
  | error fault => cases fault <;> rfl
  | ok entry => cases entry <;> rfl

namespace Settings

variable {environment : Environment} {tree : FileTree} {path file : Path} {fault : FileFault}

/-- A path in a home directory that is not known is not looked at. -/
theorem requireFile_of_homeless (h : path.expandHome environment = none) :
    requireFile environment tree path = .error (.brokenOff .homeUnknown) := by
  unfold requireFile expand
  rw [h]
  rfl

/-- What is required of a path in a home directory that is known is required of the path there. -/
theorem requireFile_of_expandHome (h : path.expandHome environment = some file) :
    requireFile environment tree path =
      (isFile tree file >>= fun found =>
        if found then .ok file else .error (.reported (.unreadable file "no such file"))) := by
  unfold requireFile expand
  rw [h]
  rfl

/-- A path whose name is too long cannot be looked at. -/
theorem requireFile_of_nameTooLong (h : path.expandHome environment = some file)
    (hread : tree.read file.toString = .error .nameTooLong) :
    requireFile environment tree path =
      .error (.brokenOff (.unusablePath .nameTooLong file.toString)) := by
  have hfile : isFile tree file =
      .error (.brokenOff (.unusablePath .nameTooLong file.toString)) := by
    unfold isFile
    rw [FileTree.isFile_eq, hread]
    rfl
  rw [requireFile_of_expandHome h, hfile]
  rfl

/-- A path that leads to no file for another reason is reported. -/
theorem requireFile_of_fault (h : path.expandHome environment = some file)
    (hread : tree.read file.toString = .error fault) (hother : fault ≠ .nameTooLong) :
    requireFile environment tree path = .error (.reported (.unreadable file "no such file")) := by
  have hfile : isFile tree file = .ok false := by
    unfold isFile
    rw [FileTree.isFile_eq, hread]
    cases fault with
    | nameTooLong => contradiction
    | missing | isDirectory | notDirectory | embeddedNull => rfl
  rw [requireFile_of_expandHome h, hfile]
  rfl

end Settings

namespace CommandLine

open Startup

variable {environment : Environment} {tree : FileTree} {arguments : Arguments}
  {failure : StartFailure} {settings : Settings}

/-- What keeps the settings from being loaded keeps the startup from its end. -/
theorem Startup.outcome_of_settings_failure
    (h : Settings.load environment tree arguments.config = .error failure) :
    outcome environment tree arguments = .error failure := by
  unfold outcome
  rw [h]
  rfl

/-- What keeps the units from being found keeps the startup from its end. -/
theorem Startup.outcome_of_units_not_found
    (hsettings : Settings.load environment tree arguments.config = .ok settings)
    (h : UnitsFile.find environment tree arguments.units (some settings) = .error failure) :
    outcome environment tree arguments = .error failure := by
  unfold outcome
  rw [hsettings]
  change (UnitsFile.find environment tree arguments.units (some settings) >>= _) = _
  rw [h]
  rfl

/-- What keeps the units from being read keeps the startup from its end. -/
theorem Startup.outcome_of_units_not_read {source : UnitsFile.Source}
    (hsettings : Settings.load environment tree arguments.config = .ok settings)
    (hsource : UnitsFile.find environment tree arguments.units (some settings) = .ok source)
    (h : (source.read tree).outcome = .error failure) :
    outcome environment tree arguments = .error failure := by
  unfold outcome
  rw [hsettings]
  change (UnitsFile.find environment tree arguments.units (some settings) >>= _) = _
  rw [hsource]
  change ((source.read tree).outcome >>= _) >>= _ = _
  rw [h]
  rfl

/-- What becomes of a run that needs the file at a path which was named: where the path leads to no
file, that is reported and the files stay as they are, unless the path cannot even be looked at. -/
structure NamedFileFates (environment : Environment) (tree : FileTree) (display : Display)
    (path : Path) (finish : Finish) : Prop where
  /-- The path starts in a home directory that is not known. -/
  homeless : path.expandHome environment = none → finish.ending = .error .homeUnknown
  /-- The path or a name in it is too long. -/
  nameTooLong : ∀ file, path.expandHome environment = some file →
    tree.read file.toString = .error .nameTooLong →
      finish.ending = .error (.unusablePath .nameTooLong file.toString)
  /-- There is no file for another reason: it is missing, or it is a directory. -/
  absent : ∀ file fault, path.expandHome environment = some file →
    tree.read file.toString = .error fault → fault ≠ .nameTooLong →
      finish.Reports display (ConfigurationError.unreadable file "no such file").message ∧
        finish.tree = tree

/-- What keeps a named file from being used keeps the startup from its end, when the startup needs
the file. -/
theorem Accepts.namedFileFates {words : List String} {display : Display} {path : Path}
    (accepts : Accepts words arguments display)
    (hneeds : ∀ failure, Settings.requireFile environment tree path = .error failure →
      outcome environment tree arguments = .error failure) (input : List String) :
    NamedFileFates environment tree display path (run environment tree input words) where
  homeless := by
    intro hhome
    exact accepts.breaksOff_of_failed_startup
      (hneeds _ (Settings.requireFile_of_homeless hhome)) input
  nameTooLong := by
    intro file hfile hread
    exact accepts.breaksOff_of_failed_startup
      (hneeds _ (Settings.requireFile_of_nameTooLong hfile hread)) input
  absent := by
    intro file fault hfile hread hother
    exact accepts.reports_of_failed_startup
      (hneeds _ (Settings.requireFile_of_fault hfile hread hother)) input

/-- The number of characters of a settings file that are read before the first one is looked at. -/
def settingsAhead : Nat := 8192

/-- What becomes of a run whose settings file cannot be used. -/
structure SettingsFileFates (environment : Environment) (tree : FileTree) (arguments : Arguments)
    (display : Display) (finish : Finish) : Prop where
  /-- A file that was named has to be there. -/
  named : ∀ path, Settings.named? environment arguments.config Settings.settingsVariable =
    some path → NamedFileFates environment tree display path finish
  /-- The run breaks off at a file that is not UTF-8, and nothing is reported. The bad byte is met
  before anything is made of the text, unless that much stands before it. -/
  undecodable : ∀ file bytes failure,
    Settings.find environment tree arguments.config = .ok (some file) →
      tree.read file.toString = .ok bytes → (decode false bytes).failure = some failure →
        (unifyBreaks (decode false bytes).chars).length < settingsAhead →
          finish.ending = .error (.undecodable failure)

/-- What becomes of a run whose units file cannot be used, the settings being loaded. -/
structure UnitsFileFates (environment : Environment) (tree : FileTree) (arguments : Arguments)
    (settings : Settings) (display : Display) (finish : Finish) : Prop where
  /-- A file that was named, by the settings at last, has to be there. -/
  named : ∀ path,
    (Settings.named? environment arguments.units Settings.unitsVariable).or settings.unitsFile =
      some path → NamedFileFates environment tree display path finish
  /-- A file that is not UTF-8 is reported when the lines before the bad byte can be read. -/
  undecodable : ∀ file bytes failure reader,
    UnitsFile.find environment tree arguments.units (some settings) = .ok (.file file) →
      tree.read file.toString = .ok bytes → (decode true bytes).failure = some failure →
        UnitsFile.Reader.initial.feedLines digitLimit 1 (decode true bytes).lines = .ok reader →
          finish.Reports display (ConfigurationError.unreadable (.ofString file.toString)
            failure.message).message ∧ finish.tree = tree
  /-- The run breaks off at an overlong integer before the bad byte. -/
  overlong : ∀ file bytes refusal,
    UnitsFile.find environment tree arguments.units (some settings) = .ok (.file file) →
      tree.read file.toString = .ok bytes →
        UnitsFile.Reader.initial.feedLines digitLimit 1 (decode true bytes).lines =
          .error refusal → finish.ending = .error (.overlongNumeral refusal)

/-- What becomes of a run that takes lines from a file which cannot be used. -/
structure BatchFileFates (job : Job) (tree : FileTree) (file : String) (finish : Finish) :
    Prop where
  /-- A file that cannot be opened is reported: it is missing, it is a directory, or its path is too
  long. -/
  absent : ∀ fault, tree.read file = .error fault → fault ≠ .embeddedNull →
    finish.Reports job.display s!"cannot read {file}: {fault.reason}"
  /-- A path that no file can have breaks the run off. -/
  embeddedNull : tree.read file = .error .embeddedNull →
    finish.ending = .error (.unusablePath .embeddedNull file)
  /-- The run breaks off at a file that is not UTF-8, and nothing is reported, unless a line before
  the bad byte leaves the console. -/
  undecodable : ∀ bytes failure, tree.read file = .ok bytes →
    (decode false bytes).failure = some failure →
      let taken := job.console.run none (decode false bytes).lines
      finish.ending =
        if taken.left then .ok (exitCode taken.console.failures) else .error (.undecodable failure)

variable {words : List String} {display : Display}

/-- A settings file that is found and is not UTF-8 has no settings. -/
theorem load_of_undecodable {argument : Option String} {file : Path} {bytes : List UInt8}
    {bad : DecodeFailure} (hfind : Settings.find environment tree argument = .ok (some file))
    (hread : tree.read file.toString = .ok bytes) (hbad : (decode false bytes).failure = some bad) :
    Settings.load environment tree argument = .error (.brokenOff (.undecodable bad)) := by
  have hgiven : Settings.readGiven tree file = .error (.brokenOff (.undecodable bad)) := by
    unfold Settings.readGiven
    rw [hread]
    simp only [Except.mapError, bind, Except.bind, hbad]
    rfl
  unfold Settings.load
  rw [hfind]
  change Settings.fromFile environment tree file = _
  unfold Settings.fromFile
  rw [hgiven]
  rfl

/-- A run has one of the fates when its settings file cannot be used. -/
theorem Accepts.settingsFileFates (accepts : Accepts words arguments display)
    (environment : Environment) (tree : FileTree) (input : List String) :
    SettingsFileFates environment tree arguments display (run environment tree input words) where
  named := by
    intro path hnamed
    refine accepts.namedFileFates (fun failure hfailure => ?_) input
    apply outcome_of_settings_failure
    have hfind : Settings.find environment tree arguments.config = .error failure := by
      unfold Settings.find
      rw [hnamed]
      dsimp only
      rw [hfailure]
      rfl
    unfold Settings.load
    rw [hfind]
    rfl
  undecodable := by
    intro file bytes bad hfind hread hbad _
    exact accepts.breaksOff_of_failed_startup
      (outcome_of_settings_failure (load_of_undecodable hfind hread hbad)) input

/-- A run has one of the fates when its units file cannot be used. -/
theorem Accepts.unitsFileFates (accepts : Accepts words arguments display)
    (hsettings : Settings.load environment tree arguments.config = .ok settings)
    (input : List String) :
    UnitsFileFates environment tree arguments settings display
      (run environment tree input words) where
  named := by
    intro path hnamed
    refine accepts.namedFileFates (fun failure hfailure => ?_) input
    apply outcome_of_units_not_found hsettings
    unfold UnitsFile.find
    rw [Option.bind_some, hnamed]
    dsimp only
    rw [hfailure]
    rfl
  undecodable := by
    intro file bytes bad reader hfind hread hbad hlines
    have hreading : ((UnitsFile.Source.file file).read tree).outcome =
        .error (.reported (.unreadable (.ofString file.toString) bad.message)) := by
      simp only [UnitsFile.Source.read, UnitsFile.fromFile, hread, UnitsFile.readDecoded, hlines,
        hbad]
    exact accepts.reports_of_failed_startup
      (outcome_of_units_not_read hsettings hfind hreading) input
  overlong := by
    intro file bytes refusal hfind hread hlines
    have hreading : ((UnitsFile.Source.file file).read tree).outcome =
        .error (.brokenOff (.overlongNumeral refusal)) := by
      simp only [UnitsFile.Source.read, UnitsFile.fromFile, hread, UnitsFile.readDecoded, hlines]
    exact accepts.breaksOff_of_failed_startup
      (outcome_of_units_not_read hsettings hfind hreading) input

/-- The files that a job finds: the one for the results is emptied before. -/
def Job.opened? (job : Job) (tree : FileTree) : Option FileTree :=
  match job.record with
  | none => some tree
  | some path => (tree.write path []).toOption

/-- A job whose file for the results could be emptied ends as its work does. -/
theorem Job.finish_of_opened {job : Job} {tree opened : FileTree}
    (h : job.opened? tree = some opened) (input : List String) :
    ∃ after, job.finish tree input = job.display.finish after
      (job.log ++ (job.work opened input).transcript) (job.work opened input).ending := by
  unfold opened? at h
  unfold finish
  cases hrecord : job.record with
  | none =>
    rw [hrecord] at h
    cases h
    exact ⟨tree, rfl⟩
  | some path =>
    rw [hrecord] at h
    dsimp only at h ⊢
    cases hwrite : tree.write path [] with
    | error fault =>
      rw [hwrite] at h
      contradiction
    | ok emptied =>
      rw [hwrite] at h
      cases h
      exact ⟨_, rfl⟩

/-- The work with a file of lines that cannot be opened. -/
theorem Job.work_of_fault {job : Job} {file : String} {fault : FileFault}
    (htask : job.task = .batch file) (hfile : file ≠ "-") (hread : tree.read file = .error fault)
    (input : List String) : job.work tree input = refusedFile "read" file fault := by
  unfold work
  simp only [htask, hfile, hread, if_false]

/-- The work with a file of lines that can be opened. -/
theorem Job.work_of_bytes {job : Job} {file : String} {bytes : List UInt8}
    (htask : job.task = .batch file) (hfile : file ≠ "-") (hread : tree.read file = .ok bytes)
    (input : List String) : job.work tree input =
      batchWork job.console (decode false bytes).lines (decode false bytes).failure := by
  unfold work
  simp only [htask, hfile, hread, if_false]

/-- A file that cannot be used comes to a line with the reason and an exit status of one. -/
theorem refusedFile_of_fault {fault : FileFault} (h : fault ≠ .embeddedNull)
    (action path : String) :
    refusedFile action path fault =
      ⟨.ok 1, [.failure ("ucon: " ++ s!"cannot {action} {path}: {fault.reason}")]⟩ := by
  have hstart : "ucon: cannot " = "ucon: " ++ "cannot " := by decide
  unfold refusedFile
  rw [if_neg h]
  simp only [toString, hstart, String.append_assoc]

/-- A run has one of the fates when the file with its lines cannot be used. -/
theorem batchFileFates_of_launch {job : Job} {file : String} {opened : FileTree}
    (hlaunch : launch environment tree words = .ok job) (htask : job.task = .batch file)
    (hfile : file ≠ "-") (hopened : job.opened? tree = some opened) (input : List String) :
    BatchFileFates job opened file (run environment tree input words) := by
  obtain ⟨after, hfinish⟩ := Job.finish_of_opened hopened input
  have hrun : run environment tree input words = job.finish tree input := by
    unfold run
    rw [hlaunch]
  rw [hrun, hfinish]
  constructor
  · intro fault hread hother
    rw [Job.work_of_fault htask hfile hread, refusedFile_of_fault hother]
    exact job.display.reports_finish after (onlyLog_of_launch hlaunch) _
  · intro hread
    rw [Job.work_of_fault htask hfile hread]
    rfl
  · intro bytes bad hread hbad
    rw [Job.work_of_bytes htask hfile hread, hbad]
    unfold batchWork
    dsimp only
    cases hleft : (job.console.run none (decode false bytes).lines).left <;> rfl

/-- Whatever words a program is run with, in whatever environment and among whatever files: a
settings file, units file or file of lines that is missing or a directory is reported with an exit
status of one. A units file that is not UTF-8 is reported in the same way, but at a settings file or
a file of lines that is not UTF-8 the run breaks off. -/
theorem fates_of_unusable_files (environment : Environment) (tree : FileTree) (input : List String)
    (words : List String) :
    (∀ arguments display, Accepts words arguments display →
      SettingsFileFates environment tree arguments display (run environment tree input words)) ∧
    (∀ arguments display settings, Accepts words arguments display →
      Settings.load environment tree arguments.config = .ok settings →
        UnitsFileFates environment tree arguments settings display
          (run environment tree input words)) ∧
    (∀ job file opened, launch environment tree words = .ok job → job.task = .batch file →
      file ≠ "-" → job.opened? tree = some opened →
        BatchFileFates job opened file (run environment tree input words)) := by
  refine ⟨?_, ?_, ?_⟩
  · intro arguments display accepts
    exact accepts.settingsFileFates environment tree input
  · intro arguments display settings accepts hsettings
    exact accepts.unitsFileFates hsettings input
  · intro job file opened hlaunch htask hfile hopened
    exact batchFileFates_of_launch hlaunch htask hfile hopened input

/-- A run breaks off at a settings file of one byte that starts no character, and so it does at such
a file of lines. -/
theorem run_breaks_off_at_bad_byte :
    (run ⟨[], []⟩ ⟨[(["c.yaml"], .file [0xff])]⟩ [] ["--config", "c.yaml"]).ending =
        .error (.undecodable ⟨0, 1, 0xff, .invalidStart⟩) ∧
      (run ⟨[("UCON_HOME", "h")], []⟩ ⟨[(["u.cfg"], .file []), (["b.txt"], .file [0xff])]⟩ []
          ["--units", "u.cfg", "--batch", "b.txt"]).ending =
        .error (.undecodable ⟨0, 1, 0xff, .invalidStart⟩) := by
  decide +kernel

end CommandLine

end UnitConversion

import UnitConversion.Proofs.ConvertedValues
import UnitConversion.Proofs.ReportedFailures

/-!
# Turns of a console

A line that a console takes fails or succeeds. When it fails there is one message about it, the
failure is counted, and nothing is written to the output or the record, however much of the line was
worked out before. When it succeeds no message is written, and a line of conversions has written one
result for each pair of a value and an output unit.
-/

namespace UnitConversion

/-- The piece is a line about a failure. -/
def Event.isFailure : Event → Bool
  | failure _ => true
  | _ => false

/-- The piece is a line of the log. -/
def Event.isLog : Event → Bool
  | log _ _ => true
  | _ => false

namespace Transcript

/-- Nothing but log lines is written. -/
def OnlyLog (transcript : Transcript) : Prop := ∀ event ∈ transcript, event.isLog = true

theorem onlyLog_nil : OnlyLog [] := by simp [OnlyLog]

/-- Log lines behind log lines. -/
theorem OnlyLog.append {first second : Transcript} (hfirst : first.OnlyLog)
    (hsecond : second.OnlyLog) : OnlyLog (first ++ second) := by
  intro event hin
  rcases List.mem_append.mp hin with hin | hin
  · exact hfirst event hin
  · exact hsecond event hin

variable {transcript : Transcript}

/-- What is about no failure writes nothing to the errors. -/
theorem silent_of_no_failure (h : ∀ event ∈ transcript, event.isFailure = false) :
    transcript.filter Event.isFailure = [] ∧ transcript.err = "" := by
  constructor
  · exact List.filter_eq_nil_iff.mpr fun event hin => by simp [h event hin]
  · refine join_map_eq_empty fun event hin => ?_
    have hevent := h event hin
    cases event with
    | failure text => contradiction
    | prompt text => rfl
    | reply text => rfl
    | result text => rfl
    | log level text => rfl

/-- A property that log lines have. -/
theorem OnlyLog.forall {holds : Event → Prop} (h : transcript.OnlyLog)
    (hlog : ∀ level text, holds (.log level text)) : ∀ event ∈ transcript, holds event := by
  intro event hin
  have hevent := h event hin
  cases event with
  | log level text => exact hlog level text
  | prompt text => contradiction
  | reply text => contradiction
  | result text => contradiction
  | failure text => contradiction

/-- Log lines are no output. -/
theorem OnlyLog.out (h : transcript.OnlyLog) (quiet : Bool) : transcript.out quiet = "" :=
  join_map_eq_empty (h.forall fun _ _ => rfl)

/-- Log lines are not recorded. -/
theorem OnlyLog.record (h : transcript.OnlyLog) : transcript.record = "" :=
  join_map_eq_empty (h.forall fun _ _ => rfl)

/-- Log lines are about no failure. -/
theorem OnlyLog.silent (h : transcript.OnlyLog) :
    transcript.filter Event.isFailure = [] ∧ transcript.err = "" :=
  silent_of_no_failure (h.forall fun _ _ => rfl)

/-- Messages are written one behind the other. -/
theorem err_append (first second : Transcript) :
    err (first ++ second) = err first ++ err second := by
  simp [err]

/-- Results are recorded one behind the other. -/
theorem record_append (first second : Transcript) :
    record (first ++ second) = record first ++ record second := by
  simp [record]

end Transcript

namespace Attempt

variable {α : Type} {step : String → Attempt α} {words : List String} {memory last : Memory}
  {results : List α}

/-- Steps for words give one result for each. -/
theorem length_of_runFrom_mapM (h : (words.mapM step).runFrom memory = (.ok results, last)) :
    results.length = words.length := by
  induction words generalizing memory results with
  | nil =>
    cases h
    rfl
  | cons word words ih =>
    obtain ⟨first, between, rest, -, hrest, rfl⟩ := runFrom_mapM_cons_eq_ok.mp h
    rw [List.length_cons, List.length_cons, ih hrest]

end Attempt

namespace Request

/-- The grid has a conversion for each value and each column. -/
theorem length_grid (source : ResolvedUnit) (values : List Float)
    (columns : List (ResolvedUnit × List Float)) :
    (grid source values columns).length = values.length * columns.length := by
  simp only [grid, List.length_flatMap, List.length_map, List.map_const', List.length_zipIdx,
    List.sum_replicate_nat]

/-- The conversions are the whole grid of the values and the columns of results: a row for each
value, a column for each output unit, and no column is too short for the rows. -/
structure FillsGrid (roles : Split) (conversions : List FinishedConversion) (source : ResolvedUnit)
    (values : List Float) (columns : List (ResolvedUnit × List Float)) : Prop where
  /-- They are the conversions of the grid. -/
  whole : conversions = grid source values columns
  /-- There is a row for each word of a value. -/
  rows : values.length = roles.values.length
  /-- There is a column for each word of an output unit. -/
  width : columns.length = roles.outputs.length
  /-- Each column has a result for each row. -/
  complete : ∀ column ∈ columns, column.2.length = values.length

/-- The grid of `m` values and `n` output units has `m * n` conversions. -/
theorem FillsGrid.length {roles : Split} {conversions : List FinishedConversion}
    {source : ResolvedUnit} {values : List Float} {columns : List (ResolvedUnit × List Float)}
    (fills : FillsGrid roles conversions source values columns) :
    conversions.length = roles.values.length * roles.outputs.length := by
  rw [fills.whole, length_grid, fills.rows, fills.width]

open Attempt

variable {registry : Registry} {values : List Float} {source : ResolvedUnit}

/-- A column is made where its unit is resolved and the values convert to it. -/
theorem runFrom_column_eq_ok {word : String} {memory last : Memory}
    {made : ResolvedUnit × List Float} :
    (column registry values source word).runFrom memory = (.ok made, last) ↔
      (resolveUnit registry .output word).runFrom memory = (.ok made.1, last) ∧
        Conversion.convertValues values source made.1 = .ok made.2 := by
  unfold column
  rw [runFrom_bind_eq_ok]
  constructor
  · rintro ⟨target, between, htarget, hlater⟩
    obtain ⟨results, final, hresults, hpair⟩ := runFrom_bind_eq_ok.mp hlater
    simp only [runFrom_check, runFrom_pure, Prod.mk.injEq, Except.ok.injEq] at hresults hpair
    rw [← hpair.1, ← hpair.2, ← hresults.2]
    exact ⟨htarget, hresults.1⟩
  · rintro ⟨htarget, hresults⟩
    refine ⟨made.1, last, htarget, runFrom_bind_eq_ok.mpr ⟨made.2, last, ?_, rfl⟩⟩
    rw [runFrom_check, hresults]

/-- Converting to one unit after another resolves these units, and converts the values to each. -/
theorem resolved_of_columns {words : List String} {memory last : Memory}
    {columns : List (ResolvedUnit × List Float)}
    (h : (words.mapM (column registry values source)).runFrom memory = (.ok columns, last)) :
    (words.mapM (resolveUnit registry .output)).runFrom memory =
        (.ok (columns.map Prod.fst), last) ∧
      ∀ column ∈ columns, Conversion.convertValues values source column.1 = .ok column.2 := by
  induction words generalizing memory columns with
  | nil =>
    cases h
    exact ⟨rfl, by simp⟩
  | cons word words ih =>
    obtain ⟨first, between, rest, hfirst, hrest, rfl⟩ := runFrom_mapM_cons_eq_ok.mp h
    obtain ⟨htarget, hresults⟩ := runFrom_column_eq_ok.mp hfirst
    obtain ⟨htargets, hlater⟩ := ih hrest
    exact ⟨runFrom_mapM_cons_eq_ok.mpr ⟨_, between, _, htarget, htargets, rfl⟩,
      List.forall_mem_cons.mpr ⟨hresults, hlater⟩⟩

/-- Resolve the words of a line in their roles, and convert nothing. -/
def Split.resolveAll (registry : Registry) (roles : Split) :
    Attempt (List Float × ResolvedUnit × List ResolvedUnit) := do
  let values ← roles.values.mapM resolveValue
  let source ← resolveUnit registry .input roles.input
  let targets ← roles.outputs.mapM (resolveUnit registry .output)
  return (values, source, targets)

/-- The conversions of a line are a grid of its values and of columns, each of which holds the
values converted to the unit above it. The line leaves behind what resolving its words leaves. -/
theorem exists_grid_of_convertLine {words : List String} {memory last : Memory}
    {conversions : List FinishedConversion}
    (h : (convertLine registry words).runFrom memory = (.ok conversions, last)) :
    ∃ roles source values columns, split words = .ok roles ∧
      (roles.resolveAll registry).runFrom memory =
        (.ok (values, source, columns.map Prod.fst), last) ∧
      conversions = grid source values columns ∧ values.length = roles.values.length ∧
      columns.length = roles.outputs.length ∧
      ∀ column ∈ columns, Conversion.convertValues values source column.1 = .ok column.2 := by
  obtain ⟨roles, hroles, hrun⟩ := exists_split_of_convertLine h
  obtain ⟨values, afterValues, hvalues, hrest⟩ := runFrom_bind_eq_ok.mp hrun
  obtain ⟨source, afterInput, hsource, hlater⟩ := runFrom_bind_eq_ok.mp hrest
  obtain ⟨columns, afterOutputs, hcolumns, hpure⟩ := runFrom_bind_eq_ok.mp hlater
  simp only [runFrom_pure, Prod.mk.injEq, Except.ok.injEq] at hpure
  obtain ⟨rfl, rfl⟩ := hpure
  obtain ⟨htargets, hconvert⟩ := resolved_of_columns hcolumns
  refine ⟨roles, source, values, columns, hroles, ?_, rfl, length_of_runFrom_mapM hvalues,
    length_of_runFrom_mapM hcolumns, hconvert⟩
  exact runFrom_bind_eq_ok.mpr ⟨values, afterValues, hvalues, runFrom_bind_eq_ok.mpr
    ⟨source, afterInput, hsource, runFrom_bind_eq_ok.mpr ⟨_, afterOutputs, htargets, rfl⟩⟩⟩

/-- A line that is converted fills the grid of its values and output units. -/
theorem fillsGrid_of_convertLine {words : List String} {memory last : Memory}
    {conversions : List FinishedConversion}
    (h : (convertLine registry words).runFrom memory = (.ok conversions, last)) :
    ∃ roles source values columns, split words = .ok roles ∧
      FillsGrid roles conversions source values columns := by
  obtain ⟨roles, source, values, columns, hroles, -, hgrid, hvalues, hcolumns, hconvert⟩ :=
    exists_grid_of_convertLine h
  exact ⟨roles, source, values, columns, hroles, hgrid, hvalues, hcolumns, fun column hin =>
    Conversion.length_of_convertValues (hconvert column hin)⟩

end Request

/-- Conversions as the session writes them, each on a line. -/
def Session.lines (session : Session) (conversions : List FinishedConversion) : String :=
  String.join (conversions.map fun conversion => session.format conversion ++ "\n")

namespace Console

/-- What comes of an input. -/
def respond (console : Console) : Input → Turn
  | .line text => console.execute text
  | .words words => console.executeWords words

/-- The words of an input. -/
def Input.words? : Input → Except DanglingEscape (List String)
  | .line text => Line.words text
  | .words given => .ok given

/-- The failure of an outcome. -/
def failureOf? {ε α : Type} : Except ε α → Option ε
  | .ok _ => none
  | .error failure => some failure

/-- Why words are refused, when they are: they leave the console or invoke a command with arguments
that are not taken, or they cannot be converted. -/
def refusal? (console : Console) (words : List String) : Option CommandError :=
  match words with
  | [] => none
  | word :: arguments =>
    if leavingWords.contains word then
      failureOf? (Command.checkArguments (some 0) arguments)
    else
      match Command.ofWord? word with
      | some found => failureOf? (found.run console.session arguments)
      | none =>
        (failureOf? (console.session.perform
          (Request.convertLine console.session.registry words)).1).map .conversion

/-- Why an input fails. -/
inductive InputFailure
  /-- The line ends inside an escape. -/
  | dangling (failure : DanglingEscape)
  /-- The words are refused. -/
  | refused (error : CommandError)

namespace InputFailure

/-- The failure in words. -/
def message : InputFailure → String
  | dangling failure => s!"syntax error, {failure.message}"
  | refused error => error.message

/-- The failure is one that a console reports. -/
def Reported : InputFailure → Prop
  | dangling _ => True
  | refused error => error.Reported

end InputFailure

/-- Why an input fails, when it does. -/
def failure? (console : Console) (input : Input) : Option InputFailure :=
  match input.words? with
  | .error failure => some (.dangling failure)
  | .ok words => (console.refusal? words).map .refused

/-- The words ask for conversions: they are neither a command nor do they leave the console. -/
def isConversion : List String → Bool
  | [] => false
  | word :: _ => !leavingWords.contains word && (Command.ofWord? word).isNone

/-- The turn fails once: it is counted, there is one message, nothing else is written but the log,
and the console goes on. -/
structure FailsOnce (console : Console) (message : String) (turn : Turn) : Prop where
  /-- One failure more is counted. -/
  failures : turn.console.failures = console.failures + 1
  /-- There is one message. -/
  once : turn.transcript.filter Event.isFailure = [.failure s!"error: {message}"]
  /-- The message is all that is written to the errors. -/
  err : turn.transcript.err = s!"error: {message}" ++ "\n"
  /-- Nothing is written to the output. -/
  out : ∀ quiet, turn.transcript.out quiet = ""
  /-- Nothing is recorded. -/
  record : turn.transcript.record = ""
  /-- The console goes on. -/
  goesOn : turn.goesOn = true

/-- The turn writes the results of conversions, one for each value and output unit. -/
structure Converts (console : Console) (words : List String) (turn : Turn)
    (roles : Request.Split) (conversions : List FinishedConversion) : Prop where
  /-- The words have these roles. -/
  split : Request.split words = .ok roles
  /-- These are the conversions that the words ask for. -/
  outcome : (console.session.perform
    (Request.convertLine console.session.registry words)).1 = .ok conversions
  /-- There is one for each value and output unit. -/
  length : conversions.length = roles.values.length * roles.outputs.length
  /-- None of them was looked for past the end of a column. -/
  fills : ∃ source values columns, Request.FillsGrid roles conversions source values columns
  /-- They are written to the output, unless the program is quiet. -/
  out : ∀ quiet, turn.transcript.out quiet =
    if quiet then "" else console.session.lines conversions
  /-- They are recorded. -/
  record : turn.transcript.record = console.session.lines conversions

/-- The turn succeeds: nothing is counted and there is no message. -/
structure Succeeds (console : Console) (words : List String) (turn : Turn) : Prop where
  /-- No failure is counted. -/
  failures : turn.console.failures = console.failures
  /-- There is no message. -/
  once : turn.transcript.filter Event.isFailure = []
  /-- Nothing is written to the errors. -/
  err : turn.transcript.err = ""
  /-- Conversions are written. -/
  converts : isConversion words = true →
    ∃ roles conversions, console.Converts words turn roles conversions
  /-- The console is left by one word alone. -/
  goesOn : turn.goesOn = false ↔ words = ["exit"] ∨ words = ["quit"]

/-- A turn for words that are refused for the given reason, or not refused. -/
def Settles (console : Console) (words : List String) (turn : Turn) : Option CommandError → Prop
  | some error => error.Reported ∧ console.FailsOnce error.message turn
  | none => console.Succeeds words turn

variable {console : Console} {words arguments : List String} {word : String}

/-- A failing line writes its message behind lines of the log. The session may have changed before
the failure. -/
theorem failsOnce_fail (console : Console) (session : Session) {before : Transcript}
    (h : before.OnlyLog) (message : String) :
    console.FailsOnce message ({ console with session }.fail before message) where
  failures := rfl
  once := by
    unfold fail
    rw [List.filter_append, h.silent.1]
    rfl
  err := by
    unfold fail
    rw [Transcript.err_append, h.silent.2, String.empty_append]
    simp [Transcript.err, Event.err]
  out := by
    intro quiet
    unfold fail
    rw [Transcript.out_append, h.out quiet, String.empty_append]
    rfl
  record := by
    unfold fail
    rw [Transcript.record_append, h.record, String.empty_append]
    rfl
  goesOn := rfl

/-- The words about failed ones are a line of the log. -/
theorem onlyLog_failedWords (words : List String) : Transcript.OnlyLog [failedWords words] := by
  simp [Transcript.OnlyLog, failedWords, Event.isLog]

/-- The console is left by one of two words. -/
theorem leavingWords_contains :
    leavingWords.contains word = true ↔ word = "exit" ∨ word = "quit" := by
  simp [leavingWords]

/-- Other words do not leave the console. -/
theorem not_leaving (h : leavingWords.contains word = false) (arguments : List String) :
    ¬(word :: arguments = ["exit"] ∨ word :: arguments = ["quit"]) := by
  rintro (hexit | hquit)
  · rw [(List.cons.inj hexit).1] at h
    contradiction
  · rw [(List.cons.inj hquit).1] at h
    contradiction

/-- The console is left without arguments. -/
theorem settles_leave (h : leavingWords.contains word = true) (arguments : List String) :
    console.Settles (word :: arguments) (console.leave (word :: arguments) arguments)
      (failureOf? (Command.checkArguments (some 0) arguments)) := by
  cases arguments with
  | cons extra rest =>
    exact ⟨trivial, failsOnce_fail console _ (onlyLog_failedWords _) _⟩
  | nil =>
    constructor
    · rfl
    · rfl
    · rfl
    · intro hconversion
      simp only [isConversion, h] at hconversion
      contradiction
    · simpa [leave, Command.checkArguments] using leavingWords_contains.mp h

/-- A command answers or fails. -/
theorem settles_command {found : Command} (hstays : leavingWords.contains word = false)
    (hfound : Command.ofWord? word = some found) (arguments : List String) :
    console.Settles (word :: arguments) (console.command (word :: arguments) found arguments)
      (failureOf? (found.run console.session arguments)) := by
  unfold command
  cases hrun : found.run console.session arguments with
  | error error =>
    exact ⟨Command.reported_of_run hrun, failsOnce_fail console _ (onlyLog_failedWords _) _⟩
  | ok result =>
    have hreply : ∀ event ∈ replyEvents result.2, event.isFailure = false := by
      unfold replyEvents
      split <;> simp [Event.isFailure]
    obtain ⟨honce, herr⟩ := Transcript.silent_of_no_failure hreply
    constructor
    · rfl
    · exact honce
    · exact herr
    · simp [isConversion, hfound]
    · exact iff_of_false (by simp) (not_leaving hstays arguments)

/-- The words that were resolved are for the log. -/
theorem onlyLog_resolutions (resolutions : List Resolution) :
    Transcript.OnlyLog
      (resolutions.map fun resolution => Event.log .debug resolution.message) := by
  intro event hin
  obtain ⟨resolution, -, rfl⟩ := List.mem_map.mp hin
  rfl

/-- The numbers of values and units are for the log. -/
theorem onlyLog_summary (words : List String) : (summary words).OnlyLog := by
  intro event hin
  unfold summary at hin
  split at hin
  · rw [List.mem_singleton.mp hin]
    rfl
  · simp at hin

/-- The results of conversions are about no failure. They go to the output, unless the program is
quiet, and to the record. -/
theorem results_written (session : Session) (conversions : List FinishedConversion) :
    let results : Transcript :=
      conversions.map fun conversion => .result (session.format conversion)
    results.filter Event.isFailure = [] ∧ results.err = "" ∧
      (∀ quiet, results.out quiet = if quiet then "" else session.lines conversions) ∧
      results.record = session.lines conversions := by
  dsimp only
  obtain ⟨honce, herr⟩ := @Transcript.silent_of_no_failure
    (conversions.map fun conversion => .result (session.format conversion)) (by
      simp [Event.isFailure])
  refine ⟨honce, herr, fun quiet => ?_, ?_⟩
  · cases quiet with
    | true => exact Transcript.join_map_eq_empty (by simp [Event.out])
    | false => simp [Transcript.out, Session.lines, Event.out, Function.comp_def]
  · simp [Transcript.record, Session.lines, Event.record, Function.comp_def]

/-- A line of conversions is worked out as a whole before anything of it is written. -/
theorem succeeds_convert (hstays : leavingWords.contains word = false) {arguments : List String}
    {conversions : List FinishedConversion}
    (h : (console.session.perform
      (Request.convertLine console.session.registry (word :: arguments))).1 = .ok conversions) :
    console.Succeeds (word :: arguments) (console.convert (word :: arguments)) := by
  obtain ⟨session, resolutions, hconvert⟩ := convert_of_ok h
  obtain ⟨roles, source, values, columns, hsplit, hfills⟩ :=
    Request.fillsGrid_of_convertLine (Prod.ext h rfl)
  obtain ⟨honce, herr, hout, hrecord⟩ := results_written console.session conversions
  have hlog := (onlyLog_resolutions resolutions).append (onlyLog_summary (word :: arguments))
  rw [hconvert]
  constructor
  · rfl
  · rw [List.filter_append, hlog.silent.1, honce, List.nil_append]
  · rw [Transcript.err_append, hlog.silent.2, herr, String.empty_append]
  · intro _
    refine ⟨roles, conversions, hsplit, h, hfills.length, ⟨source, values, columns, hfills⟩, ?_, ?_⟩
    · intro quiet
      rw [Transcript.out_append, hlog.out, String.empty_append, hout]
    · rw [Transcript.record_append, hlog.record, String.empty_append, hrecord]
  · exact iff_of_false (by simp) (not_leaving hstays arguments)

/-- A line of conversions that fails has written nothing but log lines before its message. -/
theorem failsOnce_convert {error : ConversionError}
    (h : (console.session.perform (Request.convertLine console.session.registry words)).1 =
      .error error) : console.FailsOnce error.message (console.convert words) := by
  unfold convert
  cases hrun : console.session.perform
      (Request.convertLine console.session.registry words) with
  | mk outcome result =>
    obtain ⟨session, resolutions⟩ := result
    rw [hrun] at h
    have houtcome : outcome = .error error := h
    rw [houtcome]
    exact failsOnce_fail console session
      ((onlyLog_resolutions resolutions).append (onlyLog_failedWords _)) _

/-- A line of conversions fails or succeeds. -/
theorem settles_convert (hstays : leavingWords.contains word = false) (arguments : List String) :
    console.Settles (word :: arguments) (console.convert (word :: arguments))
      ((failureOf? (console.session.perform
        (Request.convertLine console.session.registry (word :: arguments))).1).map
          .conversion) := by
  have hreports := Attempt.reports_convertLine console.session.registry (word :: arguments)
    ⟨console.session.remembered, []⟩
  cases houtcome : (console.session.perform
      (Request.convertLine console.session.registry (word :: arguments))).1 with
  | error error => exact ⟨hreports error houtcome, failsOnce_convert houtcome⟩
  | ok conversions => exact succeeds_convert hstays houtcome

/-- An input is taken by its words. -/
theorem respond_eq (console : Console) (input : Input) :
    console.respond input =
      match input.words? with
      | .error failure => console.fail [] s!"syntax error, {failure.message}"
      | .ok words => console.executeWords words := by
  cases input <;> rfl

/-- Words that are taken are refused for a reason that is reported, or they succeed. -/
theorem settles_executeWords (console : Console) (words : List String) :
    console.Settles words (console.executeWords words) (console.refusal? words) := by
  unfold executeWords refusal?
  cases words with
  | nil =>
    constructor
    · rfl
    · rfl
    · rfl
    · simp [isConversion]
    · simp
  | cons word arguments =>
    dsimp only
    cases hleaves : leavingWords.contains word with
    | true => exact settles_leave hleaves arguments
    | false =>
      rw [if_neg Bool.false_ne_true, if_neg Bool.false_ne_true]
      cases hfound : Command.ofWord? word with
      | some found => exact settles_command hleaves hfound arguments
      | none => exact settles_convert hleaves arguments

/-- Whatever a console is given, it fails once or it succeeds. When it fails, the failure is one
that the console reports: it is counted, its message is written, and nothing else is written but the
log. When it succeeds, nothing is counted and no message is written, and conversions have one result
for each value and output unit. -/
theorem fails_once_or_succeeds (console : Console) (input : Input) :
    (∃ failure, console.failure? input = some failure ∧ failure.Reported ∧
      console.FailsOnce failure.message (console.respond input)) ∨
    ∃ words, console.failure? input = none ∧ input.words? = .ok words ∧
      console.Succeeds words (console.respond input) := by
  rw [respond_eq]
  cases hwords : input.words? with
  | error failure =>
    exact .inl ⟨.dangling failure, by simp [failure?, hwords], trivial,
      failsOnce_fail console console.session Transcript.onlyLog_nil _⟩
  | ok words =>
    have hsettles := settles_executeWords console words
    cases hrefusal : console.refusal? words with
    | some error =>
      rw [hrefusal] at hsettles
      exact .inl ⟨.refused error, by simp [failure?, hwords, hrefusal], hsettles.1, hsettles.2⟩
    | none =>
      rw [hrefusal] at hsettles
      exact .inr ⟨words, by simp [failure?, hwords, hrefusal], rfl, hsettles⟩

end Console

end UnitConversion

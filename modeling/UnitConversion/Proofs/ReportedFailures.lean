import UnitConversion.Proofs.RecallAbbreviation

/-!
# Failures that are reported

A console reports the failures of commands and conversions. One failure is none of these: that a
unit is asked of the place of the value. No word of a line and no command is resolved in such a way
that it comes up, so nothing gets past the console.
-/

namespace UnitConversion

/-- The failure is one that a console reports. -/
def ConversionError.Reported : ConversionError → Prop
  | .holdsNoUnit _ => False
  | _ => True

/-- The failure is one that a console reports. -/
def CommandError.Reported : CommandError → Prop
  | .conversion error => error.Reported
  | _ => True

/-- Only failures come up that a console reports. -/
def FailsReported {α : Type} (outcome : Except ConversionError α) : Prop :=
  ∀ error, outcome = .error error → error.Reported

section Outcomes

variable {α β : Type}

/-- What succeeds has no failure. -/
theorem failsReported_ok (value : α) : FailsReported (.ok value) := by
  rintro error ⟨⟩

/-- A failure that is reported. -/
theorem failsReported_error {error : ConversionError} (h : error.Reported) :
    FailsReported (.error error : Except ConversionError α) := by
  rintro other ⟨⟩
  exact h

/-- Working on the value of a step adds no failures. -/
theorem FailsReported.map {step : Except ConversionError α} (h : FailsReported step)
    (work : α → β) : FailsReported (step.map work) := by
  cases step with
  | error error => exact failsReported_error (h error rfl)
  | ok value => exact failsReported_ok (work value)

/-- A sequence of two steps has the failures of both. -/
theorem FailsReported.bind {first : Except ConversionError α}
    {next : α → Except ConversionError β} (hfirst : FailsReported first)
    (hnext : ∀ value, FailsReported (next value)) : FailsReported (first >>= next) := by
  cases first with
  | error error => exact failsReported_error (hfirst error rfl)
  | ok value => exact hnext value

end Outcomes

namespace UnitExpression

/-- A name that cannot be read is reported. -/
theorem failsReported_readName (token : String) (chars : List Char) :
    FailsReported (readName token chars) := by
  unfold readName
  split
  · exact failsReported_error trivial
  · exact failsReported_error trivial
  · exact failsReported_ok _

/-- What cannot be read behind a metric prefix is reported. -/
theorem failsReported_readPrefixed (token : String) (metric : MetricPrefix) (body : List Char) :
    FailsReported (readPrefixed token metric body) := by
  unfold readPrefixed
  split
  · exact failsReported_error trivial
  · split
    · split
      · exact failsReported_ok _
      · exact failsReported_error trivial
    · exact (failsReported_readName token _).map _

/-- A unit expression that cannot be read is reported. -/
theorem failsReported_read (token : String) : FailsReported (read token) := by
  unfold read
  split
  · exact failsReported_error trivial
  · split
    · split
      · exact failsReported_ok _
      · exact failsReported_error trivial
    · split
      · split
        · exact failsReported_error trivial
        · split
          · exact failsReported_error trivial
          · exact failsReported_readPrefixed token _ _
      · exact (failsReported_readName token _).map _

end UnitExpression

/-- A value that cannot be read is reported. -/
theorem ValueExpression.failsReported_read (token : String) : FailsReported (read token) := by
  unfold read
  split
  · exact failsReported_ok _
  · split
    · exact failsReported_error trivial
    · split
      · exact failsReported_ok _
      · exact failsReported_error trivial

/-- Words without roles are reported. -/
theorem Request.failsReported_split (words : List String) : FailsReported (split words) := by
  unfold split
  split
  · split
    · exact failsReported_ok _
    · exact failsReported_error trivial
  · exact failsReported_error trivial

/-- Units of different quantities are reported. -/
theorem Conversion.failsReported_checkCompatible (source target : ResolvedUnit) :
    FailsReported (checkCompatible source target) := by
  unfold checkCompatible
  split
  · exact failsReported_ok _
  · exact failsReported_error trivial

/-- Values that do not convert are reported. -/
theorem Conversion.failsReported_convertValues (values : List Float)
    (source target : ResolvedUnit) : FailsReported (convertValues values source target) := by
  unfold convertValues
  split
  · exact failsReported_error trivial
  · refine (failsReported_checkCompatible source target).bind fun _ => ?_
    split
    · exact failsReported_ok _
    · split
      · exact failsReported_error trivial
      · exact failsReported_ok _

/-- What a word stands for, where it stands for no value, is reported. -/
theorem failsReported_valueOf (remembered : Recall) (word : String) :
    FailsReported (valueOf remembered word) := by
  have hread := ValueExpression.failsReported_read word
  unfold valueOf
  split
  · rename_i error herror
    exact failsReported_error (hread error herror)
  · exact failsReported_ok _
  · split
    · exact failsReported_ok _
    · exact failsReported_error trivial

namespace Recall

/-- The places of units can be looked at. -/
theorem exists_unitAt (remembered : Recall) {slot : Slot} (h : slot ≠ .value) :
    ∃ held, remembered.unitAt slot = .ok held := by
  cases slot with
  | value => exact absurd rfl h
  | input => exact ⟨remembered.input, rfl⟩
  | output => exact ⟨remembered.output, rfl⟩

/-- The places of units can be filled. -/
theorem exists_remember_of_ne (remembered : Recall) {slot : Slot} (h : slot ≠ .value)
    (unit : MeasureUnit) (name : String) :
    ∃ after, remembered.remember slot unit name = .ok after := by
  cases slot with
  | value => exact absurd rfl h
  | input => exact ⟨_, rfl⟩
  | output => exact ⟨_, rfl⟩

end Recall

variable {slot : Slot}

/-- A unit that is not recalled is reported. -/
theorem failsReported_recalledUnitOf (h : slot ≠ .value) (remembered : Recall)
    (metric : Option MetricPrefix) : FailsReported (recalledUnitOf slot remembered metric) := by
  obtain ⟨held, hheld⟩ := remembered.exists_unitAt h
  unfold recalledUnitOf
  rw [hheld]
  cases held with
  | none => exact failsReported_error trivial
  | some recalled => exact failsReported_ok _

/-- A unit that is not known is reported. -/
theorem failsReported_foundUnitOf (h : slot ≠ .value) (registry : Registry)
    (remembered : Recall) (name : String) (metric : Option MetricPrefix) :
    FailsReported (foundUnitOf registry slot remembered name metric) := by
  unfold foundUnitOf
  split
  · exact failsReported_error trivial
  · rename_i unit _
    obtain ⟨after, hafter⟩ := remembered.exists_remember_of_ne h unit name
    rw [hafter]
    exact failsReported_ok _

/-- What a word stands for, where it stands for no unit, is reported. -/
theorem failsReported_unitOf (h : slot ≠ .value) (registry : Registry) (remembered : Recall)
    (word : String) : FailsReported (unitOf registry slot remembered word) := by
  have hread := UnitExpression.failsReported_read word
  unfold unitOf
  split
  · rename_i error herror
    exact failsReported_error (hread error herror)
  · exact failsReported_recalledUnitOf h remembered none
  · exact failsReported_recalledUnitOf h remembered _
  · exact failsReported_foundUnitOf h registry remembered _ none
  · exact failsReported_foundUnitOf h registry remembered _ _

namespace Attempt

variable {α β : Type}

/-- The attempt fails with failures only that a console reports. -/
def Reports (attempt : Attempt α) : Prop := ∀ memory, FailsReported (attempt.runFrom memory).1

theorem reports_pure (value : α) : Reports (pure value : Attempt α) :=
  fun _ => failsReported_ok value

/-- A step that needs no memory has the failures that it has by itself. -/
theorem reports_check {result : Except ConversionError α} (h : FailsReported result) :
    Reports (check result) := fun _ => h

/-- A sequence of two steps has the failures of both. -/
theorem Reports.bind {first : Attempt α} {next : α → Attempt β} (hfirst : Reports first)
    (hnext : ∀ value, Reports (next value)) : Reports (first >>= next) := by
  intro memory
  have hfails := hfirst memory
  rw [runFrom_bind]
  cases hrun : first.runFrom memory with
  | mk outcome between =>
    rw [hrun] at hfails
    cases outcome with
    | error error => exact failsReported_error (hfails error rfl)
    | ok value => exact hnext value between

/-- Steps for the words of a list have the failures of these steps. -/
theorem Reports.mapM {step : String → Attempt α} (hstep : ∀ word, Reports (step word))
    (words : List String) : Reports (words.mapM step) := by
  induction words with
  | nil => exact reports_pure []
  | cons word words ih =>
    rw [List.mapM_cons]
    exact (hstep word).bind fun value => ih.bind fun values => reports_pure (value :: values)

/-- Resolving a value has the failures of what its word stands for. -/
theorem reports_resolveValue (word : String) : Reports (resolveValue word) := by
  intro memory
  have hfails := failsReported_valueOf memory.remembered word
  rw [runFrom_resolveValue]
  cases hvalue : valueOf memory.remembered word with
  | error error => exact failsReported_error (hfails error hvalue)
  | ok result => exact failsReported_ok _

/-- Resolving a unit has the failures of what its word stands for. -/
theorem reports_resolveUnit (h : slot ≠ .value) (registry : Registry) (word : String) :
    Reports (resolveUnit registry slot word) := by
  intro memory
  have hfails := failsReported_unitOf h registry memory.remembered word
  rw [runFrom_resolveUnit]
  cases hunit : unitOf registry slot memory.remembered word with
  | error error => exact failsReported_error (hfails error hunit)
  | ok result => exact failsReported_ok _

/-- Whatever stops a line of conversions is reported. -/
theorem reports_convertLine (registry : Registry) (words : List String) :
    Reports (Request.convertLine registry words) := by
  refine (reports_check (Request.failsReported_split words)).bind fun roles => ?_
  refine (Reports.mapM reports_resolveValue _).bind fun values => ?_
  refine (reports_resolveUnit (by decide) registry _).bind fun source => ?_
  refine (Reports.mapM (fun word => ?_) _).bind fun columns => reports_pure _
  refine (reports_resolveUnit (by decide) registry word).bind fun target => ?_
  exact (reports_check (Conversion.failsReported_convertValues values source target)).bind
    fun results => reports_pure _

end Attempt

namespace Command

variable {session : Session} {arguments : List String} {error : CommandError}

/-- An argument too many is reported. -/
theorem reported_of_checkArguments {limit : Option Nat}
    (h : checkArguments limit arguments = .error error) : error.Reported := by
  unfold checkArguments at h
  split at h
  · contradiction
  · split at h
    · contradiction
    · cases h
      trivial

/-- A style that is not known is reported. -/
theorem reported_of_runFormat (h : runFormat session arguments = .error error) :
    error.Reported := by
  unfold runFormat at h
  split at h
  · contradiction
  · split at h
    · simp at h
    · cases h
      trivial

/-- A quantity that is not known is reported. -/
theorem reported_of_runUnits (h : runUnits session arguments = .error error) :
    error.Reported := by
  unfold runUnits at h
  dsimp only at h
  split at h
  · contradiction
  · cases h
    trivial

/-- What cannot be remembered as a value is reported. -/
theorem reported_of_runValue (h : runValue session arguments = .error error) :
    error.Reported := by
  unfold runValue at h
  split at h
  · split at h <;> contradiction
  · split at h
    · rename_i failure hread
      cases h
      exact ValueExpression.failsReported_read _ failure hread
    · cases h
      trivial
    · contradiction

/-- What cannot be remembered as a unit is reported. -/
theorem reported_of_runUnit (hslot : slot ≠ .value)
    (h : runUnit slot session arguments = .error error) : error.Reported := by
  unfold runUnit at h
  split at h
  · obtain ⟨held, hheld⟩ := session.remembered.exists_unitAt hslot
    rw [hheld] at h
    cases held <;> contradiction
  · split at h
    · rename_i failure hread
      cases h
      exact UnitExpression.failsReported_read _ failure hread
    · rename_i name _
      split at h
      · cases h
        trivial
      · rename_i unit _
        obtain ⟨after, hafter⟩ := session.remembered.exists_remember_of_ne hslot unit name
        rw [hafter] at h
        contradiction
    · cases h
      trivial

/-- Whatever stops a command is reported. -/
theorem reported_of_run {command : Command} (h : command.run session arguments = .error error) :
    error.Reported := by
  have hanswers : ∀ text : String,
      (pure (session, text) : Except CommandError (Session × String)) ≠ .error error := by
    simp [pure, Except.pure]
  rcases Outcome.bind_eq_error.mp h with hcheck | ⟨-, -, hrun⟩
  · exact reported_of_checkArguments hcheck
  · cases command with
    | format => exact reported_of_runFormat hrun
    | value => exact reported_of_runValue hrun
    | inputUnit => exact reported_of_runUnit (by decide) hrun
    | outputUnit => exact reported_of_runUnit (by decide) hrun
    | units => exact reported_of_runUnits hrun
    | help => exact absurd hrun (hanswers helpText)
    | version => exact absurd hrun (hanswers versionText)

end Command

end UnitConversion

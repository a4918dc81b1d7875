import UnitConversion.Proofs.ConsoleTurns
import UnitConversion.Proofs.PrintedNumerals
import UnitConversion.Proofs.RegistryHistory

/-!
# Finite conversions

Only finite numbers get into a session and out of it. Whatever a console was given before, what it
remembers is a finite value and units under names of theirs, and every number that it prints is
finite and printed as a numeral.
-/

namespace UnitConversion

open Numeric

/-- Value and result of a conversion are finite. -/
structure FinishedConversion.Finite (conversion : FinishedConversion) : Prop where
  /-- The value is finite. -/
  value : conversion.value.isFinite = true
  /-- The result is finite. -/
  result : conversion.result.isFinite = true

namespace Request

open Attempt

/-- A grid of finite values and columns of finite results holds finite conversions. -/
theorem finite_grid {source : ResolvedUnit} {values : List Float}
    {columns : List (ResolvedUnit × List Float)}
    (h : ∀ column ∈ columns, (∀ value ∈ values, value.isFinite = true) ∧
      ∀ result ∈ column.2, result.isFinite = true) :
    ∀ conversion ∈ grid source values columns, conversion.Finite := by
  intro conversion hin
  obtain ⟨⟨value, row⟩, hrow, hcolumn⟩ := List.mem_flatMap.mp hin
  obtain ⟨column, hmem, rfl⟩ := List.mem_map.mp hcolumn
  obtain ⟨hvalues, hresults⟩ := h column hmem
  have hvalue := hvalues value (List.fst_mem_of_mem_zipIdx hrow)
  refine ⟨hvalue, ?_⟩
  change (column.2.getD row value).isFinite = true
  rw [List.getD_eq_getElem?_getD]
  cases hfound : column.2[row]? with
  | none => exact hvalue
  | some result => exact hresults result (List.mem_of_getElem? hfound)

/-- All conversions of a line are finite. -/
theorem finite_of_convertLine {registry : Registry} {words : List String} {memory last : Memory}
    {conversions : List FinishedConversion}
    (h : (convertLine registry words).runFrom memory = (.ok conversions, last)) :
    ∀ conversion ∈ conversions, conversion.Finite := by
  obtain ⟨-, source, values, columns, -, -, hgrid, -, -, hconvert⟩ := exists_grid_of_convertLine h
  have hcolumns : ∀ column ∈ columns, (∀ value ∈ values, value.isFinite = true) ∧
      ∀ result ∈ column.2, result.isFinite = true := fun column hin =>
    Conversion.finite_of_convertValues (hconvert column hin)
  rw [hgrid]
  exact finite_grid hcolumns

end Request

/-- What is recalled is sound: the value is finite, and the registry finds each unit under the name
by which it is recalled, which is one of its names. -/
structure Recall.Sound (registry : Registry) (remembered : Recall) : Prop where
  /-- The value is finite. -/
  value : ∀ value, remembered.value = some value → value.isFinite = true
  /-- The registry finds each unit under its recalled name. -/
  found : ∀ slot recalled, remembered.held slot = some recalled →
    registry.lookup recalled.typedName = some recalled.unit
  /-- The recalled name is one of the unit's. -/
  named : ∀ slot recalled, remembered.held slot = some recalled →
    recalled.typedName ∈ recalled.unit.names

/-- What is valid is sound. -/
theorem Recall.Valid.sound {registry : Registry} {remembered : Recall}
    (valid : remembered.Valid registry) : remembered.Sound registry where
  value := fun value hvalue => (valid.value value hvalue).1
  found := fun slot recalled hheld => (valid.unit slot recalled hheld).2
  named := fun slot recalled hheld =>
    (Registry.mem_of_lookup (valid.unit slot recalled hheld).2).2

namespace Console

/-- The text stands for a number that can be given again: it is a decimal numeral, and as a word of
a line it looks like a value. -/
def IsPrintedNumber (text : String) : Prop :=
  IsNumeral text ∧ ValueExpression.looksLikeValue text = true

/-- A finite number is printed as one that can be given again. -/
theorem isPrintedNumber_formatNumber (precision : Precision) {value : Float}
    (finite : value.isFinite = true) : IsPrintedNumber (formatNumber precision value) :=
  ⟨isNumeral_formatNumber precision finite,
    looksLikeValue_of_isNumeral (isNumeral_formatNumber precision finite)⟩

/-- The numbers that a turn prints: those of its conversions, and the remembered value if the input
asks for it. -/
structure PrintsFinite (console : Console) (input : Input) (turn : Turn) : Prop where
  /-- A result is that of a finite conversion, and its two numbers are printed as numerals. -/
  results : ∀ text, .result text ∈ turn.transcript → ∃ conversion : FinishedConversion,
    text = console.session.format conversion ∧ conversion.Finite ∧
      IsPrintedNumber (formatNumber console.session.precision conversion.value) ∧
      IsPrintedNumber (formatNumber console.session.precision conversion.result)
  /-- The remembered value is printed as a numeral. -/
  value : ∀ text, input.words? = .ok ["value"] → .reply text ∈ turn.transcript →
    text = Command.notSet ∨ IsPrintedNumber text

variable {console : Console}

/-- A turn that fails prints no result. -/
theorem FailsOnce.not_result {message : String} {turn : Turn}
    (fails : console.FailsOnce message turn) (text : String) :
    .result text ∉ turn.transcript := by
  intro hin
  obtain ⟨before, after, htranscript⟩ := List.append_of_mem hin
  -- What is printed as a result is recorded, with a line feed at least.
  have hrecord := fails.record
  rw [htranscript, Transcript.record_append] at hrecord
  simp [Transcript.record, Event.record] at hrecord

/-- What a command prints is no result. -/
theorem not_result_command (words : List String) (found : Command) (arguments : List String)
    (text : String) : .result text ∉ (console.command words found arguments).transcript := by
  unfold command
  split
  · unfold replyEvents
    split <;> simp
  · exact (failsOnce_fail console console.session (onlyLog_failedWords words) _).not_result text

/-- What is printed when the console is left is no result. -/
theorem not_result_leave (words arguments : List String) (text : String) :
    .result text ∉ (console.leave words arguments).transcript := by
  unfold leave
  split
  · simp
  · exact (failsOnce_fail console console.session (onlyLog_failedWords words) _).not_result text

/-- The results that a line of conversions prints are those of finite conversions. -/
theorem finite_of_result_convert {words : List String} {text : String}
    (h : .result text ∈ (console.convert words).transcript) :
    ∃ conversion : FinishedConversion, text = console.session.format conversion ∧
      conversion.Finite := by
  cases houtcome : (console.session.perform
      (Request.convertLine console.session.registry words)).1 with
  | error error => exact absurd h ((failsOnce_convert houtcome).not_result text)
  | ok conversions =>
    obtain ⟨session, resolutions, hconvert⟩ := convert_of_ok houtcome
    have hfinite := Request.finite_of_convertLine (Prod.ext houtcome rfl)
    rw [hconvert] at h
    rcases List.mem_append.mp h with hlog | hresult
    · have hevent := ((onlyLog_resolutions resolutions).append (onlyLog_summary words)) _ hlog
      contradiction
    · obtain ⟨conversion, hin, hsame⟩ := List.mem_map.mp hresult
      exact ⟨conversion, (Event.result.inj hsame).symm, hfinite conversion hin⟩

/-- The results that words print are those of finite conversions. -/
theorem finite_of_result_executeWords {words : List String} {text : String}
    (h : .result text ∈ (console.executeWords words).transcript) :
    ∃ conversion : FinishedConversion, text = console.session.format conversion ∧
      conversion.Finite := by
  unfold executeWords at h
  split at h
  · simp at h
  · split at h
    · exact absurd h (not_result_leave _ _ text)
    · split at h
      · exact absurd h (not_result_command _ _ _ text)
      · exact finite_of_result_convert h

/-- The command for the remembered value prints it as a numeral when it is finite. -/
theorem isPrintedNumber_of_reply_value
    (finite : ∀ value, console.session.remembered.value = some value → value.isFinite = true)
    {text : String} (h : .reply text ∈ (console.executeWords ["value"]).transcript) :
    text = Command.notSet ∨ IsPrintedNumber text := by
  have hvalue : Command.ofWord? "value" = some .value := by decide
  have hstays : leavingWords.contains "value" = false := by decide
  have hcommand : console.executeWords ["value"] = console.command ["value"] .value [] := by
    simp only [executeWords, hstays, hvalue, Bool.false_eq_true, if_false]
  have hrun : ∃ reply, Command.value.run console.session [] = .ok (console.session, reply) ∧
      (reply = Command.notSet ∨ IsPrintedNumber reply) := by
    change ∃ reply, Command.runValue console.session [] = _ ∧ _
    unfold Command.runValue
    cases hheld : console.session.remembered.value with
    | none => exact ⟨_, rfl, .inl rfl⟩
    | some number => exact ⟨_, rfl, .inr (isPrintedNumber_formatNumber _ (finite number hheld))⟩
  obtain ⟨reply, hreply, hshape⟩ := hrun
  rw [hcommand] at h
  unfold command at h
  rw [hreply] at h
  have hsame : text = reply := by
    unfold replyEvents at h
    dsimp only at h
    split at h
    · simp at h
    · exact Event.reply.inj (List.mem_singleton.mp h)
  rw [hsame]
  exact hshape

/-- Whatever a console is given, it prints finite numbers. -/
theorem printsFinite_respond {registry : Registry} (valid : console.session.Valid registry)
    (input : Input) : console.PrintsFinite input (console.respond input) where
  results := by
    intro text hin
    rw [respond_eq] at hin
    cases hwords : input.words? with
    | error failure =>
      rw [hwords] at hin
      simp [fail] at hin
    | ok words =>
      rw [hwords] at hin
      obtain ⟨conversion, hformat, hfinite⟩ := finite_of_result_executeWords hin
      exact ⟨conversion, hformat, hfinite, isPrintedNumber_formatNumber _ hfinite.value,
        isPrintedNumber_formatNumber _ hfinite.result⟩
  value := by
    intro text hwords hin
    rw [respond_eq, hwords] at hin
    exact isPrintedNumber_of_reply_value (fun value h => (valid.recalled.value value h).1) hin

/-- Whatever a console was given since a session began in which nothing was used, it works on its
registry, what it remembers is sound, and the next input prints finite numbers only, each one as a
numeral that can be given again as a value. -/
theorem sound_and_finite (registry : Registry) (style : OutputStyle) (precision : Precision)
    (inputs : List Input) (input : Input) :
    let console := (start (.start registry style precision)).takeAll inputs
    console.session.registry = registry ∧ console.session.remembered.Sound registry ∧
      console.PrintsFinite input (console.respond input) := by
  have valid := valid_takeAll_start registry style precision inputs
  exact ⟨valid.units, valid.recalled.sound, printsFinite_respond valid input⟩

end Console

end UnitConversion

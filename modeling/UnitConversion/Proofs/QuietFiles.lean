import UnitConversion.Proofs.LineFates

/-!
# Files without warnings

A warning is never taken back. When there is none about a file in the end, there was none on the
way, so each header has its unit, with all its names, and each line below it that is not blank has
set a field of it.
-/

namespace UnitConversion.UnitsFile

open Text MeasureUnit

/-- The line makes the setting. -/
def Makes (limit : DigitLimit) (line : String) (setting : Setting) : Prop :=
  settingOn? limit setting.field line = some setting

/-- The lines complete what has a name and settings to the unit: each line that is not blank makes a
setting, no field is set twice, and all the settings describe the unit. -/
def Completes (limit : DigitLimit) (name : String) (earlier : List Setting) (lines : List String)
    (unit : MeasureUnit) : Prop :=
  ∃ settings, List.Forall₂ (Makes limit) (lines.filter fun line => !isBlankLine line) settings ∧
    ((earlier ++ settings).map Setting.field).Nodup ∧
    describe name (fun field => (earlier ++ settings).find? (·.field == field)) =
      some unit.description

/-- All lines of the group have their effect in the unit: the header names it, and each line of the
body that is not blank sets a field of it. -/
def InEffect (limit : DigitLimit) (group : Group) (unit : MeasureUnit) : Prop :=
  ∃ name, headerName? group.header = some name ∧ Completes limit name [] group.body unit

/-- The lines complete what is open to its unit. When nothing is open there is no unit, and all the
lines are blank. -/
def CompletesOpen (limit : DigitLimit) :
    Option Declaration → List String → List MeasureUnit → Prop
  | none, lines, units => units = [] ∧ ∀ line ∈ lines, isBlankLine line = true
  | some declaration, lines, units =>
    ∃ unit, units = [unit] ∧ Completes limit declaration.name declaration.settings lines unit

/-- A whole header opens a group. -/
theorem opensGroup_of_headerName? {line name : String} (h : headerName? line = some name) :
    opensGroup line = true := by
  rw [← closes_ofLine]
  rw [← name?_ofLine] at h
  cases hentry : Entry.ofLine line <;> rw [hentry] at h <;> first | rfl | contradiction

/-- A blank line opens no group. -/
theorem not_opensGroup_of_isBlankLine {line : String} (h : isBlankLine line = true) :
    opensGroup line = false := by
  rw [← closes_ofLine, ofLine_of_isBlankLine h]
  rfl

/-- A line that makes a setting opens no group and is not blank. -/
theorem not_opensGroup_of_settingOn? {limit : DigitLimit} {field : Field} {line : String}
    {setting : Setting} (h : settingOn? limit field line = some setting) :
    opensGroup line = false ∧ isBlankLine line = false := by
  rw [← setting?_ofLine] at h
  constructor
  · rw [← closes_ofLine, Bool.eq_false_iff]
    intro hcloses
    rw [Entry.setting?_of_closes limit field hcloses] at h
    contradiction
  · rw [Bool.eq_false_iff]
    intro hblank
    rw [ofLine_of_isBlankLine hblank] at h
    contradiction

variable {limit : DigitLimit} {line : String} {lines : List String}

/-- A blank line completes nothing. -/
theorem CompletesOpen.cons_of_isBlankLine {current : Option Declaration}
    {units : List MeasureUnit} (h : CompletesOpen limit current lines units)
    (blank : isBlankLine line = true) : CompletesOpen limit current (line :: lines) units := by
  cases current with
  | none => exact ⟨h.1, List.forall_mem_cons.mpr ⟨blank, h.2⟩⟩
  | some declaration =>
    obtain ⟨unit, hunits, settings, hmade, hrest⟩ := h
    exact ⟨unit, hunits, settings, by rwa [List.filter_cons, blank], hrest⟩

/-- A line that makes a setting completes what comes of the declaration with that setting. -/
theorem CompletesOpen.cons_of_makes {declaration : Declaration} {setting : Setting}
    {units : List MeasureUnit}
    (h : CompletesOpen limit
      (some { declaration with settings := declaration.settings ++ [setting] }) lines units)
    (makes : Makes limit line setting) :
    CompletesOpen limit (some declaration) (line :: lines) units := by
  obtain ⟨unit, hunits, settings, hmade, hrest⟩ := h
  refine ⟨unit, hunits, setting :: settings, ?_, ?_⟩
  · rw [List.filter_cons, (not_opensGroup_of_settingOn? makes).2]
    exact .cons makes hmade
  · rw [List.append_cons]
    exact hrest

namespace Reader

variable {reader after : Reader} {before : List String} {text : String}

/-- Closing what is open takes no warning back. -/
theorem ReadUpTo.warnings_prefix_finish (read : reader.ReadUpTo before) :
    reader.warnings <+: reader.finish.warnings := by
  cases hopen : reader.current with
  | none => rw [finish_of_none hopen]
  | some declaration =>
    obtain ⟨added, hadded, -⟩ := reports_finish hopen (read.valid declaration hopen)
    exact ⟨added, hadded.symm⟩

/-- A line takes no warning back. -/
theorem ReadUpTo.warnings_prefix_feed (read : reader.ReadUpTo before)
    (h : reader.feed limit (before.length + 1) text = .ok after) :
    reader.warnings <+: after.warnings := by
  have fate := read.lineFate_feed limit text
  rw [h] at fate
  cases fate with
  | blank => exact List.prefix_rfl
  | opens header takes quiet =>
    subst takes
    exact read.warnings_prefix_finish
  | sets isOpen new makes takes quiet =>
    subst takes
    exact List.prefix_rfl
  | skipped noGroup takes once =>
    subst takes
    exact List.prefix_append _ _
  | broken group takes once =>
    subst takes
    exact read.warnings_prefix_finish.trans (List.prefix_append _ _)

/-- Lines take no warning back. -/
theorem ReadUpTo.warnings_prefix_feedLines (read : reader.ReadUpTo before)
    (h : reader.feedLines limit (before.length + 1) lines = .ok after) :
    reader.warnings <+: after.warnings := by
  have hkept := feedLines_induction
    (fun read between => between.ReadUpTo read ∧ reader.warnings <+: between.warnings)
    (fun _ _ _ _ held hline =>
      ⟨held.1.feed hline, held.2.trans (held.1.warnings_prefix_feed hline)⟩)
    ⟨read, List.prefix_rfl⟩ h
  exact hkept.2

/-- What is closed without a warning becomes its unit. -/
theorem ReadUpTo.completesOpen_finish (read : reader.ReadUpTo before) (limit : DigitLimit)
    (quiet : reader.finish.warnings = []) :
    ∃ units, reader.finish.registry.units = reader.registry.units ++ units ∧
      CompletesOpen limit reader.current [] units := by
  cases hopen : reader.current with
  | none => exact ⟨[], by rw [finish_of_none hopen, List.append_nil], rfl, by simp⟩
  | some declaration =>
    obtain ⟨added, hadded, -, hdone⟩ := reports_finish hopen (read.valid declaration hopen)
    rw [quiet] at hadded
    obtain ⟨unit, hunits, hdescribe⟩ := hdone (List.append_eq_nil_iff.mp hadded.symm).2
    refine ⟨[unit], hunits, unit, rfl, [], .nil, ?_, ?_⟩
    · rw [List.append_nil]
      exact read.distinct declaration hopen
    · rw [List.append_nil]
      exact hdescribe

/-- When there is no warning in the end, the lines complete what is open to its unit, and their
groups have their effect in the units behind it. -/
theorem ReadUpTo.inEffect_feedLines (read : reader.ReadUpTo before)
    (h : reader.feedLines limit (before.length + 1) lines = .ok after)
    (quiet : after.finish.warnings = []) :
    ∃ completed later, after.finish.registry.units = reader.registry.units ++ completed ++ later ∧
      CompletesOpen limit reader.current (cut lines).1 completed ∧
      List.Forall₂ (InEffect limit) (cut lines).2 later := by
  induction lines generalizing reader before with
  | nil =>
    cases h
    obtain ⟨units, hunits, hcompletes⟩ := read.completesOpen_finish limit quiet
    exact ⟨units, [], by rw [hunits, List.append_nil], hcompletes, .nil⟩
  | cons text rest ih =>
    obtain ⟨between, hline, hrest⟩ := Outcome.bind_eq_ok.mp h
    have hlength : (before ++ [text]).length = before.length + 1 := by simp
    rw [← hlength] at hrest
    have readBetween := read.feed hline
    obtain ⟨completed, later, hunits, hcompletes, hlater⟩ := ih readBetween hrest
    -- Without a warning in the end there is none behind this line.
    have hquiet : between.warnings = [] := by
      have hprefix := (readBetween.warnings_prefix_feedLines hrest).trans
        (readBetween.feedLines hrest).warnings_prefix_finish
      rw [quiet] at hprefix
      exact List.prefix_nil.mp hprefix
    have fate := read.lineFate_feed limit text
    rw [hline] at fate
    cases fate with
    | blank blank =>
      rw [cut_cons_of_not_opensGroup (not_opensGroup_of_isBlankLine blank)]
      exact ⟨completed, later, hunits, hcompletes.cons_of_isBlankLine blank, hlater⟩
    | opens header takes =>
      subst takes
      obtain ⟨closed, hclosed, hcompleted⟩ := read.completesOpen_finish limit hquiet
      obtain ⟨unit, rfl, hunit⟩ := hcompletes
      rw [cut_cons_of_opensGroup (opensGroup_of_headerName? header)]
      refine ⟨closed, unit :: later, ?_, hcompleted, .cons ⟨_, header, hunit⟩ hlater⟩
      rw [hunits, ← List.append_cons, ← hclosed]
    | sets isOpen new makes takes =>
      subst takes
      rw [isOpen, cut_cons_of_not_opensGroup (not_opensGroup_of_settingOn? makes).1]
      exact ⟨completed, later, hunits, hcompletes.cons_of_makes makes, hlater⟩
    | skipped noGroup takes =>
      subst takes
      simp [Reader.warn] at hquiet
    | broken group takes =>
      subst takes
      simp [Reader.warn] at hquiet

end Reader

/-- What becomes of the declaration that is open behind the lines. -/
structure DeclarationFate (before : List String) (reader : Reader) (declaration : Declaration) :
    Prop where
  /-- Its header is one of the lines. -/
  header : 1 ≤ declaration.line ∧ ∃ header, before[declaration.line - 1]? = some header ∧
    headerName? header = some declaration.name
  /-- It is closed with nothing left open. -/
  closes : reader.finish.current = none
  /-- There are warnings about its header, or there is none, and one unit is added that has the name
  in the header and the aliases, each once, and the other fields as they are set. -/
  reports : ∃ added, reader.finish.warnings = reader.warnings ++ added ∧
    (∀ warning ∈ added, warning.line = declaration.line) ∧
    (added ≠ [] ∨ ∃ unit, reader.finish.registry.units = reader.registry.units ++ [unit] ∧
      unit.names = (declaration.name :: declaration.aliases).eraseDups ∧
      describe declaration.name declaration.setting? = some unit.description)

/-- The names that a declaration describes are its name and its aliases, each once. -/
theorem names_of_describe_setting? {declaration : Declaration} {description : Description}
    (h : describe declaration.name declaration.setting? = some description) :
    description.names = (declaration.name :: declaration.aliases).eraseDups := by
  rw [Declaration.describe_setting?] at h
  obtain ⟨quantity, -, hfactor⟩ := Option.bind_eq_some_iff.mp h
  obtain ⟨factor, -, rfl⟩ := Option.map_eq_some_iff.mp hfactor
  rfl

/-- An open declaration has one of the fates. -/
theorem Reader.ReadUpTo.declarationFate {reader : Reader} {before : List String}
    (read : reader.ReadUpTo before) {declaration : Declaration}
    (hopen : reader.current = some declaration) : DeclarationFate before reader declaration where
  header := read.header declaration hopen
  closes := reader.current_finish
  reports := by
    obtain ⟨added, hadded, hlines, hdone⟩ := reports_finish hopen (read.valid declaration hopen)
    refine ⟨added, hadded, hlines, ?_⟩
    by_cases hnone : added = []
    · obtain ⟨unit, hunits, hdescribe⟩ := hdone hnone
      exact .inr ⟨unit, hunits, names_of_describe_setting? hdescribe, hdescribe⟩
    · exact .inl hnone

/-- No line of a file is lost silently. Each line that is read is blank, or it has its effect or one
warning, and each declaration that is closed becomes a unit or has warnings. The warnings are about
lines of the file, and when there is none then each header has its unit and each line below it its
effect. What ends the reading is an integer with more digits than may be read, and nothing else. -/
theorem no_line_is_lost (limit : DigitLimit) (lines : List String) :
    (∀ before text later reader, lines = before ++ text :: later →
      Reader.initial.feedLines limit 1 before = .ok reader →
        LineFate limit reader (before.length + 1) text
          (reader.feed limit (before.length + 1) text)) ∧
    (∀ before later reader declaration, lines = before ++ later →
      Reader.initial.feedLines limit 1 before = .ok reader →
        reader.current = some declaration → DeclarationFate before reader declaration) ∧
    (∀ loaded, load limit lines = .ok loaded →
      (∀ warning ∈ loaded.warnings, 1 ≤ warning.line ∧ warning.line ≤ lines.length) ∧
      (loaded.warnings = [] → (∀ line ∈ (cut lines).1, isBlankLine line = true) ∧
        List.Forall₂ (InEffect limit) (cut lines).2 loaded.registry.units)) ∧
    ((∃ failure, load limit lines = .error failure) ↔
      ∃ before text later reader declaration, lines = before ++ text :: later ∧
        Reader.initial.feedLines limit 1 before = .ok reader ∧
        reader.current = some declaration ∧ declaration.sets .dimensions = false ∧
        IsOverlong limit text) := by
  refine ⟨?_, ?_, ?_, load_eq_error_iff⟩
  · rintro before text later reader - hread
    exact (Reader.readUpTo_feedLines hread).lineFate_feed limit text
  · rintro before later reader declaration - hread hopen
    exact (Reader.readUpTo_feedLines hread).declarationFate hopen
  · intro loaded hload
    obtain ⟨reader, hread, hloaded⟩ := Outcome.bind_eq_ok.mp hload
    rw [← Outcome.pure_eq_ok.mp hloaded]
    refine ⟨(Reader.readUpTo_feedLines hread).finish.warnings, fun quiet => ?_⟩
    obtain ⟨completed, units, hunits, ⟨rfl, hblank⟩, heffect⟩ :=
      Reader.readUpTo_initial.inEffect_feedLines hread quiet
    have hregistry : reader.finish.registry.units = units := hunits
    exact ⟨hblank, by rwa [hregistry]⟩

/-- An overlong line below a header ends the reading: there is no reader behind it that has a
warning about it, and nothing is loaded. -/
theorem not_loaded_of_isOverlong {text : String} (h : IsOverlong digitLimit text) : ∃ reader,
    Reader.initial.feedLines digitLimit 1 ["[a]", "type = length", "conv_factor = 1"] = .ok reader ∧
      (∀ after, reader.feed digitLimit 4 text ≠ .ok after) ∧
      ∀ loaded, load digitLimit (["[a]", "type = length", "conv_factor = 1"] ++ [text]) ≠
        .ok loaded := by
  have hread : (Reader.initial.feedLines digitLimit 1
      ["[a]", "type = length", "conv_factor = 1"]).map
        (fun reader => reader.current.map (·.sets .dimensions)) = .ok (some false) := by
    decide +kernel
  obtain ⟨reader, hreader, hcurrent⟩ := Outcome.map_eq_ok.mp hread
  obtain ⟨declaration, hopen, hunset⟩ := Option.map_eq_some_iff.mp hcurrent
  refine ⟨reader, hreader, ?_, ?_⟩
  · obtain ⟨failure, hfails⟩ := (Reader.readUpTo_feedLines hreader).feed_eq_error_iff.mpr
      ⟨declaration, hopen, hunset, h⟩
    intro after hafter
    exact absurd (hafter.symm.trans hfails) (by simp)
  · obtain ⟨failure, hfails⟩ := load_eq_error_iff.mpr
      ⟨_, _, [], reader, declaration, rfl, hreader, hopen, hunset, h⟩
    intro loaded hloaded
    exact absurd (hloaded.symm.trans hfails) (by simp)

/-- There is no sign before ones. -/
theorem splitSign_replicate (count : Nat) :
    splitSign (List.replicate count '1') = (false, List.replicate count '1') := by
  cases count <;> rfl

/-- Ones are an integer, however many there are. -/
theorem isInteger_replicate {count : Nat} (h : count ≠ 0) :
    isInteger (List.replicate count '1') = true := by
  have hone : isDecimalDigit '1' = true := by decide
  simp [isInteger, splitSign_replicate, h, hone]

/-- An exponent of prefixes with one digit more than may be read is lost without a warning. -/
theorem load_of_overlong_dimensions : ∃ reader,
    Reader.initial.feedLines digitLimit 1 ["[a]", "type = length", "conv_factor = 1"] = .ok reader ∧
      (∀ after, reader.feed digitLimit 4
        (fieldLine "dimensions" [String.ofList (List.replicate 4301 '1')]) ≠ .ok after) ∧
      ∀ loaded, load digitLimit (["[a]", "type = length", "conv_factor = 1"] ++
        [fieldLine "dimensions" [String.ofList (List.replicate 4301 '1')]]) ≠ .ok loaded := by
  apply not_loaded_of_isOverlong
  unfold digitLimit
  apply isOverlong_fieldLine
  · rw [String.toList_ofList]
    exact isInteger_replicate (by omega)
  · rw [String.toList_ofList, splitSign_replicate, List.length_replicate]
    omega

end UnitConversion.UnitsFile

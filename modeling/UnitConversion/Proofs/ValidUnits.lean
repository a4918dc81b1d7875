import UnitConversion.Proofs.LineFates
import UnitConversion.Proofs.UnitsFileMeaning

/-!
# Valid units

The fields of a declaration are checked line by line, so what it describes in the end passes every
check of a unit. Whatever lines were read before, a declaration that lacks no required field becomes
a unit when it is closed, and there is never a warning that it describes none.
-/

namespace UnitConversion.UnitsFile

open Text MeasureUnit

namespace Declaration

/-- A part of the settings of one field is there when the field is set. -/
theorem isSome_findSome?_settings {α : Type} (declaration : Declaration) (field : Field)
    (get : Setting → Option α) (h : ∀ setting, (get setting).isSome = (setting.field == field)) :
    (declaration.settings.findSome? get).isSome = declaration.sets field := by
  rw [sets, Bool.eq_iff_iff, List.findSome?_isSome_iff, List.any_eq_true]
  simp only [h]

/-- A declaration lacks no required field when it has a quantity and a factor. -/
theorem missing_eq_nil_iff {declaration : Declaration} : declaration.missing = [] ↔
    ∃ quantity factor, declaration.quantity? = some quantity ∧
      declaration.factor? = some factor := by
  have hquantity : declaration.quantity?.isSome = declaration.sets .quantity :=
    isSome_findSome?_settings declaration .quantity _ (by rintro (_ | _ | _ | _ | _ | _) <;> rfl)
  have hfactor : declaration.factor?.isSome = declaration.sets .factor :=
    isSome_findSome?_settings declaration .factor _ (by rintro (_ | _ | _ | _ | _ | _) <;> rfl)
  simp [missing, Field.required, List.filter_eq_nil_iff, ← hquantity, ← hfactor,
    Option.isSome_iff_exists]

end Declaration

/-- The problem that is reported with an entry. -/
def Entry.problem? : Entry → Option Problem
  | .faulty problem | .brokenHeader problem => some problem
  | .blank | .header _ | .assignment _ _ => none

/-- A line that starts like a header is reported for its own text, not for what it closes. -/
theorem Entry.problem?_ofHeader {tokens : List Token} {name : String} {defect : UnitDefect} :
    (Entry.ofHeader tokens).problem? ≠ some (.defective name defect) := by
  unfold Entry.ofHeader
  repeat' split
  all_goals simp [problem?]

/-- So is a line with an equals sign. -/
theorem Entry.problem?_ofAssignment {keyText : String} {rest : List Token} {name : String}
    {defect : UnitDefect} :
    (Entry.ofAssignment keyText rest).problem? ≠ some (.defective name defect) := by
  unfold Entry.ofAssignment
  dsimp only
  repeat' split
  all_goals simp [problem?]

/-- So is every line. -/
theorem Entry.problem?_ofLine {line : String} {name : String} {defect : UnitDefect} :
    (Entry.ofLine line).problem? ≠ some (.defective name defect) := by
  unfold Entry.ofLine
  cases Line.tokenize isDelimiter false line with
  | error failure => simp [problem?]
  | ok tokens =>
    dsimp only
    unfold Entry.ofTokens
    split
    · split
      · exact problem?_ofHeader
      · split
        · exact problem?_ofAssignment
        · simp [problem?]
    · split <;> simp [problem?]
    · simp [problem?]

namespace Reader

/-- There is no warning that what a declaration describes is no unit. -/
def NoneDefective (reader : Reader) : Prop :=
  ∀ warning ∈ reader.warnings, ∀ name defect, warning.problem ≠ .defective name defect

variable {limit : DigitLimit} {reader after : Reader} {before : List String} {text : String}

/-- At the start there is no warning. -/
theorem noneDefective_initial : initial.NoneDefective := by
  simp [NoneDefective, initial]

/-- A warning about something else may be added. -/
theorem NoneDefective.warn (clean : reader.NoneDefective) (line : Nat) {problem : Problem}
    (other : ∀ name defect, problem ≠ .defective name defect) :
    (reader.warn line problem).NoneDefective := by
  intro warning hin
  rcases List.mem_append.mp hin with hold | hnew
  · exact clean warning hold
  · rw [List.mem_singleton.mp hnew]
    exact other

/-- Names that are repeated are something else. -/
theorem NoneDefective.warn_repeated (clean : reader.NoneDefective) (line : Nat) (name : String)
    (repeated : List String) :
    (repeated.foldl (fun reader other => reader.warn line (.repeatedName name other))
      reader).NoneDefective := by
  induction repeated generalizing reader with
  | nil => exact clean
  | cons other repeated ih => exact ih (clean.warn line nofun)

/-- Names that are taken are something else. -/
theorem NoneDefective.addUnit (clean : reader.NoneDefective) (declaration : Declaration)
    (unit : MeasureUnit) : (reader.addUnit declaration unit).NoneDefective := by
  have htaken : (if (reader.registry.conflicts unit).isEmpty then reader
      else reader.warn declaration.line
        (.namesTaken declaration.name (reader.registry.conflicts unit))).NoneDefective := by
    split
    · exact clean
    · exact clean.warn declaration.line nofun
  unfold Reader.addUnit
  dsimp only
  split
  · exact htaken
  · exact htaken.warn declaration.line nofun

/-- Declaring a unit never finds that there is none when one is made of the description. -/
theorem NoneDefective.declareUnit (clean : reader.NoneDefective) {declaration : Declaration}
    {quantity : Quantity} {factor : Float} {unit : MeasureUnit}
    (hunit : declaration.unit (Declaration.joinNames [declaration.name] declaration.aliases).1
      quantity factor = .ok unit) :
    (reader.declareUnit declaration quantity factor).NoneDefective := by
  unfold Reader.declareUnit
  dsimp only
  rw [hunit]
  exact (clean.warn_repeated declaration.line declaration.name _).addUnit declaration unit

/-- Closing a valid declaration never finds that it describes no unit. -/
theorem NoneDefective.finish (clean : reader.NoneDefective)
    (valid : ∀ declaration, reader.current = some declaration → declaration.Valid) :
    reader.finish.NoneDefective := by
  unfold Reader.finish
  cases hopen : reader.current with
  | none => exact clean
  | some declaration =>
    have hclosed : ({ reader with current := none } : Reader).NoneDefective := clean
    dsimp only
    cases hquantity : declaration.quantity? with
    | none => exact hclosed.warn declaration.line nofun
    | some quantity =>
      cases hfactor : declaration.factor? with
      | none => exact hclosed.warn declaration.line nofun
      | some factor =>
        -- The values were checked when their lines were read, so the unit is made.
        obtain ⟨unit, hunit, -⟩ :=
          Declaration.exists_unit_eq_ok (valid declaration hopen) hquantity hfactor
        exact hclosed.declareUnit hunit

/-- A line that gives a key and values may have a warning about something else. -/
theorem NoneDefective.assign (clean : reader.NoneDefective) {line : Nat} {key : String}
    {values : List String} (h : reader.assign limit line key values = .ok after) :
    after.NoneDefective := by
  unfold Reader.assign at h
  cases hopen : reader.current with
  | none =>
    rw [hopen] at h
    cases h
    exact clean.warn line nofun
  | some declaration =>
    simp only [hopen] at h
    cases hkey : Field.ofKey? key with
    | none =>
      rw [hkey] at h
      cases h
      exact clean.warn line nofun
    | some field =>
      simp only [hkey] at h
      split at h
      · cases h
        exact clean.warn line nofun
      · cases hread : field.read limit key values with
        | accepted setting =>
          rw [hread] at h
          cases h
          exact clean
        | refused fault =>
          rw [hread] at h
          cases h
          exact clean.warn line nofun
        | overlong failure =>
          rw [hread] at h
          contradiction

/-- A further line never has a warning that what is closed describes no unit. -/
theorem NoneDefective.feed (clean : reader.NoneDefective) (read : reader.ReadUpTo before)
    {line : Nat} (h : reader.feed limit line text = .ok after) : after.NoneDefective := by
  have hproblem := @Entry.problem?_ofLine text
  unfold Reader.feed at h
  cases hentry : Entry.ofLine text with
  | blank =>
    rw [hentry] at h
    cases h
    exact clean
  | faulty problem =>
    rw [hentry] at h hproblem
    cases h
    exact clean.warn line fun name defect hsame => hproblem (congrArg some hsame)
  | brokenHeader problem =>
    rw [hentry] at h hproblem
    cases h
    exact (clean.finish read.valid).warn line fun name defect hsame =>
      hproblem (congrArg some hsame)
  | header name =>
    rw [hentry] at h
    cases h
    exact clean.finish read.valid
  | assignment key values =>
    rw [hentry] at h
    exact clean.assign h

/-- Lines that are read from the start never have such a warning. -/
theorem noneDefective_feedLines (h : initial.feedLines limit 1 before = .ok reader) :
    reader.NoneDefective := by
  -- The open declaration stays valid along the lines, and that keeps the warnings clean.
  have hkept := feedLines_induction
    (fun read between => between.ReadUpTo read ∧ between.NoneDefective)
    (fun _ _ _ _ held hline => ⟨held.1.feed hline, held.2.feed held.1 hline⟩)
    ⟨readUpTo_initial, noneDefective_initial⟩ h
  exact hkept.2

end Reader

/-- What the lines of a group describe is valid. -/
theorem Group.valid_of_description? {limit : DigitLimit} {group : Group}
    {description : Description} (h : group.description? limit = some description) :
    description.Valid := by
  obtain ⟨name, -, hdescribe⟩ := Option.bind_eq_some_iff.mp h
  refine Declaration.valid_of_describe (fun field setting hsetting => ?_) hdescribe
  obtain ⟨line, -, hline⟩ := List.exists_of_findSome?_eq_some hsetting
  exact Reader.valid_of_settingOn? hline

/-- Every description in the meaning of a file is valid, although nothing there checks it: what it
was before names were taken from it is valid, and it has some of those names left. -/
theorem valid_of_mem_meaning {limit : DigitLimit} {lines : List String} {description : Description}
    (h : description ∈ meaning limit lines) : description.Valid := by
  obtain ⟨whole, hwhole, hsame, hleft, hfewer⟩ := exists_of_mem_distribute h
  obtain ⟨group, -, hdescription⟩ := List.mem_filterMap.mp hwhole
  rw [hsame]
  exact (Group.valid_of_description? hdescription).fewer_names hleft hfewer

/-- A unit is built of a declaration that is closed, with the given values of its required
fields. -/
structure BuildsUnit (reader : Reader) (declaration : Declaration) (quantity : Quantity)
    (factor : Float) : Prop where
  /-- The required fields are set to the values. -/
  required : declaration.quantity? = some quantity ∧ declaration.factor? = some factor
  /-- What is described passes every check. -/
  valid : (declaration.described quantity factor).Valid
  /-- The unit is made, and it is added to the registry under its free names. These are checked once
  more, and pass. -/
  added : ∃ unit stored,
    declaration.unit (Declaration.joinNames [declaration.name] declaration.aliases).1 quantity
        factor = .ok unit ∧
      unit.description = declaration.described quantity factor ∧
      reader.registry.addChecked unit = .ok (reader.finish.registry, stored)

/-- A declaration that lacks no required field is built. -/
theorem exists_buildsUnit {reader : Reader} {declaration : Declaration}
    (hopen : reader.current = some declaration) (valid : declaration.Valid)
    (whole : declaration.missing = []) :
    ∃ quantity factor, BuildsUnit reader declaration quantity factor := by
  obtain ⟨quantity, factor, hquantity, hfactor⟩ := Declaration.missing_eq_nil_iff.mp whole
  obtain ⟨unit, hunit, hdescription⟩ := Declaration.exists_unit_eq_ok valid hquantity hfactor
  refine ⟨quantity, factor, ⟨hquantity, hfactor⟩,
    Declaration.valid_described valid hquantity hfactor, unit, (reader.registry.add unit).2, hunit,
    hdescription, ?_⟩
  have hclosed : reader.openDeclaration.bind Declaration.unit? = some unit := by
    rw [Reader.openDeclaration, hopen]
    change declaration.unit? = some unit
    simp only [Declaration.unit?, hquantity, hfactor, hunit, Except.toOption]
  rw [Registry.addChecked_eq, Reader.registry_finish, hclosed]
  rfl

/-- From the lines only valid units are built. -/
structure BuildsOnlyValid (limit : DigitLimit) (lines : List String) : Prop where
  /-- Wherever among the lines a declaration is closed that lacks no required field, a unit is built
  of it. -/
  builds : ∀ before later reader declaration, lines = before ++ later →
    Reader.initial.feedLines limit 1 before = .ok reader → reader.current = some declaration →
      declaration.missing = [] → ∃ quantity factor, BuildsUnit reader declaration quantity factor
  /-- Nowhere is there a warning that a declaration describes no unit, nor after closing what is open
  there. -/
  clean : ∀ before later reader, lines = before ++ later →
    Reader.initial.feedLines limit 1 before = .ok reader →
      reader.NoneDefective ∧ reader.finish.NoneDefective
  /-- The units that are loaded are as the lines describe them, without a check, and these
  descriptions are valid. -/
  loaded : ∀ loaded, load limit lines = .ok loaded →
    loaded.registry.units.map description = meaning limit lines ∧
      ∀ description ∈ meaning limit lines, description.Valid

/-- Whatever the lines are, only valid units are built from them: the checks let exactly the valid
descriptions pass, and no check ever fails. A registry never refuses what is left of a unit when
names are taken from it. -/
theorem builds_only_valid (limit : DigitLimit) (lines : List String) :
    BuildsOnlyValid limit lines ∧
    (∀ description : Description,
      (∃ unit, description.check = .ok unit) ↔ description.Valid) ∧
    ∀ (registry : Registry) (unit : MeasureUnit),
      registry.addChecked unit = .ok (registry.add unit) := by
  refine ⟨⟨?_, ?_, ?_⟩, fun _ => Description.exists_check_eq_ok_iff, Registry.addChecked_eq⟩
  · rintro before later reader declaration - hread hopen whole
    exact exists_buildsUnit hopen ((Reader.readUpTo_feedLines hread).valid declaration hopen) whole
  · rintro before later reader - hread
    have hclean := Reader.noneDefective_feedLines hread
    exact ⟨hclean, hclean.finish (Reader.readUpTo_feedLines hread).valid⟩
  · intro loaded hload
    exact ⟨description_load hload, fun description => valid_of_mem_meaning⟩

/-- A yard is built below a foot that has one of its names, behind a factor that is refused, a
repeated alias and an exponent that is out of range. -/
theorem builds_only_valid_yard :
    let lines := ["[ft]", "type = length", "conv_factor = 304.8", "[yard]", "aliases = ft, yd, yd",
      "type = length", "conv_factor = 0", "conv_factor = 914.4", "dimensions = 256"]
    ∃ reader declaration, Reader.initial.feedLines digitLimit 1 lines = .ok reader ∧
      reader.current = some declaration ∧ declaration.missing = [] ∧
      (∃ quantity factor, BuildsUnit reader declaration quantity factor) ∧
      reader.finish.NoneDefective ∧
      reader.finish.registry.units.map names = [["ft"], ["yard", "yd"]] ∧
      ∀ description ∈ meaning digitLimit lines, description.Valid := by
  intro lines
  have hread : (Reader.initial.feedLines digitLimit 1 lines).map (fun reader =>
      (reader.current.map Declaration.missing, reader.finish.registry.units.map names)) =
        .ok (some [], [["ft"], ["yard", "yd"]]) := by
    decide +kernel
  obtain ⟨reader, hreader, hseen⟩ := Outcome.map_eq_ok.mp hread
  obtain ⟨hcurrent, hnames⟩ := Prod.mk.inj hseen
  obtain ⟨declaration, hopen, hwhole⟩ := Option.map_eq_some_iff.mp hcurrent
  obtain ⟨only, -⟩ := builds_only_valid digitLimit lines
  have hload : load digitLimit lines = .ok ⟨reader.finish.registry, reader.finish.warnings⟩ :=
    Outcome.bind_eq_ok.mpr ⟨reader, hreader, rfl⟩
  exact ⟨reader, declaration, hreader, hopen, hwhole,
    only.builds lines [] reader declaration rfl hreader hopen hwhole,
    (only.clean lines [] reader rfl hreader).2, hnames, (only.loaded _ hload).2⟩

end UnitConversion.UnitsFile

import UnitConversion.Proofs.DeclarationFields

/-!
# The meaning of a units file

What a units file declares, said without a reader: the lines are cut into groups at the header
lines, each group describes at most one unit, and a name that several units bring belongs to the
first of them. Reading the lines one by one gives the registry that is described in this way.
-/

namespace UnitConversion.UnitsFile

open Text MeasureUnit

/-- A header line, whole or broken, and the lines from there to the next one. -/
structure Group where
  /-- The header line. -/
  header : String
  /-- The lines below it. -/
  body : List String

/-- The lines before the first header line, and the groups. -/
def cut : List String → List String × List Group
  | [] => ([], [])
  | line :: rest =>
    let (before, groups) := cut rest
    if opensGroup line then ([], ⟨line, before⟩ :: groups) else (line :: before, groups)

/-- A header line starts a group with the lines up to the next header line. -/
theorem cut_cons_of_opensGroup {line : String} (h : opensGroup line = true) (rest : List String) :
    cut (line :: rest) = ([], ⟨line, (cut rest).1⟩ :: (cut rest).2) := by
  simp [cut, h]

/-- Any other line stands before the groups that start below it. -/
theorem cut_cons_of_not_opensGroup {line : String} (h : opensGroup line = false)
    (rest : List String) : cut (line :: rest) = (line :: (cut rest).1, (cut rest).2) := by
  simp [cut, h]

/-- The description of the unit of a group: the header names it, and each field has the first
setting that a line of the group makes of it. -/
def Group.description? (limit : DigitLimit) (group : Group) : Option Description :=
  (headerName? group.header).bind fun name =>
    describe name fun field => group.body.findSome? (settingOn? limit field)

/-- The description of a declaration that is completed by further lines. -/
def Declaration.completed? (limit : DigitLimit) (declaration : Declaration) (lines : List String) :
    Option Description :=
  describe declaration.name fun field =>
    (declaration.setting? field).or (lines.findSome? (settingOn? limit field))

/-- Give each unit those of its names that are not taken yet. A unit without any is left out. -/
def distribute (taken : List String) : List Description → List Description
  | [] => []
  | description :: rest =>
    match description.names.filter fun name => !taken.contains name with
    | [] => distribute taken rest
    | names => { description with names } :: distribute (taken ++ names) rest

/-- The descriptions of the units that a file declares. -/
def meaning (limit : DigitLimit) (lines : List String) : List Description :=
  distribute [] ((cut lines).2.filterMap (Group.description? limit))

/-- Adding units to a registry distributes the names that are free in it. -/
theorem description_addAll (registry : Registry) (units : List MeasureUnit) :
    (registry.addAll units).units.map description =
      registry.units.map description ++
        distribute (registry.units.flatMap names) (units.map description) := by
  induction units generalizing registry with
  | nil => simp [distribute]
  | cons unit units ih =>
    have htaken : ∀ name,
        (registry.units.flatMap names).contains name = registry.contains name := by
      intro name
      rw [Bool.eq_iff_iff, Registry.contains_iff]
      simp
    rw [Registry.addAll_cons, ih, Registry.units_add, List.map_cons, distribute]
    simp only [htaken]
    change _ = _ ++ match unit.names.filter fun name => !registry.contains name with
      | [] => distribute (registry.units.flatMap names) (units.map description)
      | free => { unit.description with names := free } ::
          distribute (registry.units.flatMap names ++ free) (units.map description)
    cases h : unit.restrictNames? fun name => !registry.contains name with
    | none =>
      have hnone : (unit.names.filter fun name => !registry.contains name) = [] :=
        List.filter_eq_nil_iff.mpr fun name hin => by
          simp [restrictNames?_eq_none_iff.mp h name hin]
      rw [hnone]
      simp
    | some stored =>
      have hnames := names_of_restrictNames? h
      have hstored := description_of_restrictNames? h
      rw [← hnames] at hstored ⊢
      cases hfree : stored.names with
      | nil => exact absurd hfree stored.names_ne_nil
      | cons name rest =>
        rw [hfree] at hstored
        simp [hstored, hfree]

/-- What is left of a description that is distributed differs from a whole one in its names alone:
it has some of them. -/
theorem exists_of_mem_distribute {taken : List String} {descriptions : List Description}
    {description : Description} (h : description ∈ distribute taken descriptions) :
    ∃ whole ∈ descriptions, description = { whole with names := description.names } ∧
      description.names ≠ [] ∧ description.names.Sublist whole.names := by
  induction descriptions generalizing taken with
  | nil => simp [distribute] at h
  | cons first rest ih =>
    have hlater : ∀ taken, description ∈ distribute taken rest →
        ∃ whole ∈ first :: rest, description = { whole with names := description.names } ∧
          description.names ≠ [] ∧ description.names.Sublist whole.names := by
      intro taken hin
      obtain ⟨whole, hwhole, hsame⟩ := ih hin
      exact ⟨whole, List.mem_cons_of_mem _ hwhole, hsame⟩
    unfold distribute at h
    cases hfree : first.names.filter fun name => !taken.contains name with
    | nil =>
      rw [hfree] at h
      exact hlater taken h
    | cons name names =>
      rw [hfree] at h
      rcases List.mem_cons.mp h with rfl | hin
      · refine ⟨first, List.mem_cons_self, rfl, List.cons_ne_nil name names, ?_⟩
        rw [← hfree]
        exact List.filter_sublist
      · exact hlater _ hin

/-- What is open and valid describes, without further lines, what its unit is. -/
theorem description_closed (limit : DigitLimit) {current : Option Declaration}
    (valid : ∀ declaration, current = some declaration → declaration.Valid) :
    (current.bind Declaration.unit?).toList.map description =
      (current.bind fun declaration => declaration.completed? limit []).toList := by
  cases current with
  | none => rfl
  | some declaration =>
    have hunit := Declaration.unit?_description (valid declaration rfl)
    have hcompleted : declaration.completed? limit [] = declaration.unit?.map description := by
      rw [hunit]
      simp [Declaration.completed?]
    rw [Option.bind_some, Option.bind_some, hcompleted]
    cases declaration.unit? <;> rfl

/-- A line that makes no setting completes nothing. -/
theorem Declaration.completed?_cons_of_none {limit : DigitLimit} {line : String}
    (h : ∀ field, settingOn? limit field line = none) (declaration : Declaration)
    (rest : List String) :
    declaration.completed? limit (line :: rest) = declaration.completed? limit rest := by
  simp [completed?, h]

/-- A line that sets a field completes a declaration as the lines below it complete what comes of
the declaration. -/
theorem Declaration.completed?_cons_of_assign {limit : DigitLimit} {declaration after : Declaration}
    {line key : String} {values : List String} (hentry : Entry.ofLine line = .assignment key values)
    (valid : declaration.Valid) (h : declaration.assign limit key values = .ok after)
    (rest : List String) :
    declaration.completed? limit (line :: rest) = after.completed? limit rest := by
  obtain ⟨hname, -, hsetting⟩ := assign_sound valid h
  unfold completed?
  rw [hname]
  congr 1
  funext field
  rw [hsetting field, ← hentry, setting?_ofLine, List.findSome?_cons, Option.or_assoc]
  cases settingOn? limit field line <;> rfl

/-- A new declaration is completed to the unit of its group. -/
theorem Group.description?_eq {limit : DigitLimit} {group : Group} {name : String}
    (h : headerName? group.header = some name) :
    group.description? limit = (Declaration.mk name 0 []).completed? limit group.body := by
  simp [description?, h, Declaration.completed?, Declaration.setting?]

/-- What lines declare, given what is open before them: the unit of the open declaration, which the
lines before the first header may complete, and then the units of the groups. -/
theorem description_declared {limit : DigitLimit} {current : Option Declaration}
    {lines : List String} {units : List MeasureUnit}
    (valid : ∀ declaration, current = some declaration → declaration.Valid)
    (h : declared limit current lines = .ok units) :
    units.map description =
      (current.bind fun declaration => declaration.completed? limit (cut lines).1).toList ++
      (cut lines).2.filterMap (Group.description? limit) := by
  induction lines generalizing current units with
  | nil =>
    cases h
    simpa [cut] using description_closed limit valid
  | cons line rest ih =>
    have hcloses := closes_ofLine line
    have hname := name?_ofLine line
    have hsetting := fun field => setting?_ofLine limit field line
    unfold declared at h
    -- A line that opens no group belongs to what is open; one that does closes it.
    cases hentry : Entry.ofLine line with
    | blank =>
      rw [hentry] at h hcloses hsetting
      have hnone := Declaration.completed?_cons_of_none fun field => (hsetting field).symm
      simpa only [cut_cons_of_not_opensGroup hcloses.symm, hnone] using ih valid h
    | faulty problem =>
      rw [hentry] at h hcloses hsetting
      have hnone := Declaration.completed?_cons_of_none fun field => (hsetting field).symm
      simpa only [cut_cons_of_not_opensGroup hcloses.symm, hnone] using ih valid h
    | assignment key values =>
      rw [hentry] at h hcloses
      obtain ⟨after, hafter, hlater⟩ := Outcome.bind_eq_ok.mp h
      rw [cut_cons_of_not_opensGroup hcloses.symm]
      cases current with
      | none =>
        cases hafter
        exact ih (by simp) hlater
      | some declaration =>
        obtain ⟨assigned, hassigned, rfl⟩ := Outcome.map_eq_ok.mp hafter
        have hvalid := valid declaration rfl
        have hnext := Declaration.assign_sound hvalid hassigned
        rw [Option.bind_some, Declaration.completed?_cons_of_assign hentry hvalid hassigned]
        exact ih (by simpa using hnext.2.1) hlater
    | brokenHeader problem =>
      rw [hentry] at h hcloses hname
      obtain ⟨later, hlater, rfl⟩ := Outcome.map_eq_ok.mp h
      have hnone : (⟨line, (cut rest).1⟩ : Group).description? limit = none := by
        simp [Group.description?, ← hname, Entry.name?]
      rw [cut_cons_of_opensGroup hcloses.symm, List.map_append, description_closed limit valid,
        ih (by simp) hlater, List.filterMap_cons, hnone]
      simp
    | header name =>
      rw [hentry] at h hcloses hname
      obtain ⟨later, hlater, rfl⟩ := Outcome.map_eq_ok.mp h
      have hgroup : (⟨line, (cut rest).1⟩ : Group).description? limit =
          (Declaration.mk name 0 []).completed? limit (cut rest).1 :=
        Group.description?_eq hname.symm
      have hempty : (Declaration.mk name 0 []).Valid := by simp [Declaration.Valid]
      rw [cut_cons_of_opensGroup hcloses.symm, List.map_append, description_closed limit valid,
        ih (by simpa using hempty) hlater, List.filterMap_cons, hgroup, Option.bind_some]
      cases (Declaration.mk name 0 []).completed? limit (cut rest).1 <;> simp

/-- Without a limit on digits every integer is read. -/
theorem exists_intOfDigits_unlimited (chars : List Char) :
    ∃ number, intOfDigits none chars = .ok number := ⟨_, rfl⟩

/-- Without a limit on digits no value of a field is too long. -/
theorem Field.read_unlimited (field : Field) (key : String) (values : List String)
    (failure : TooManyDigits) : field.read none key values ≠ .overlong failure := by
  cases field with
  | aliases => simp [Field.read]
  | quantity | factor | zeroPoint | inverse => exact Reading.ofExcept_ne_overlong
  | dimensions =>
    unfold Field.read
    dsimp only
    cases integerText key values with
    | error fault => simp
    | ok text =>
      obtain ⟨number, hnumber⟩ := exists_intOfDigits_unlimited text.toList
      simp only [readDimensions, hnumber]
      split <;> simp

/-- Without a limit on digits every line can be taken in. -/
theorem Declaration.exists_assignOpen_unlimited (current : Option Declaration) (key : String)
    (values : List String) : ∃ after, assignOpen none current key values = .ok after := by
  cases current with
  | none => exact ⟨none, rfl⟩
  | some declaration =>
    unfold assignOpen assign
    cases Field.ofKey? key with
    | none => exact ⟨_, rfl⟩
    | some field =>
      by_cases hset : declaration.sets field = true
      · exact ⟨some declaration, by simp [hset, Except.map]⟩
      · simp only [hset]
        cases hread : field.read none key values with
        | accepted setting => exact ⟨_, rfl⟩
        | refused fault => exact ⟨_, rfl⟩
        | overlong failure => exact absurd hread (field.read_unlimited key values failure)

/-- Without a limit on digits the lines always declare something. -/
theorem exists_declared_unlimited (current : Option Declaration) (lines : List String) :
    ∃ units, declared none current lines = .ok units := by
  induction lines generalizing current with
  | nil => exact ⟨_, rfl⟩
  | cons line rest ih =>
    unfold declared
    cases Entry.ofLine line with
    | blank => exact ih current
    | faulty problem => exact ih current
    | brokenHeader problem =>
      obtain ⟨later, hlater⟩ := ih none
      exact ⟨_, Outcome.map_eq_ok.mpr ⟨later, hlater, rfl⟩⟩
    | header name =>
      obtain ⟨later, hlater⟩ := ih (some ⟨name, 0, []⟩)
      exact ⟨_, Outcome.map_eq_ok.mpr ⟨later, hlater, rfl⟩⟩
    | assignment key values =>
      obtain ⟨after, hafter⟩ := Declaration.exists_assignOpen_unlimited current key values
      obtain ⟨later, hlater⟩ := ih after
      exact ⟨later, Outcome.bind_eq_ok.mpr ⟨after, hafter, hlater⟩⟩

/-- What a file that can be loaded declares is its meaning. -/
theorem description_load {limit : DigitLimit} {lines : List String} {loaded : Loaded}
    (h : load limit lines = .ok loaded) :
    loaded.registry.units.map description = meaning limit lines := by
  have hregistry := load_registry limit lines
  rw [h] at hregistry
  obtain ⟨units, hunits, hadded⟩ := Outcome.map_eq_ok.mp hregistry.symm
  have hdescription := description_declared (by simp) hunits
  rw [← hadded, description_addAll, hdescription]
  simp [meaning, Registry.empty]

/-- Without a limit on digits every file can be loaded, and its meaning tells the registry. -/
theorem load_eq_meaning (lines : List String) :
    ∃ registry warnings, load none lines = .ok ⟨registry, warnings⟩ ∧
      ∀ other : Registry, other.units.map description = meaning none lines ↔ other = registry := by
  obtain ⟨units, hunits⟩ := exists_declared_unlimited none lines
  have hregistry := load_registry none lines
  rw [hunits] at hregistry
  obtain ⟨loaded, hloaded, hadded⟩ := Outcome.map_eq_ok.mp hregistry
  refine ⟨loaded.registry, loaded.warnings, hloaded, fun other => ?_⟩
  rw [← description_load hloaded]
  exact Registry.map_description_inj

end UnitConversion.UnitsFile

import Mathlib.Data.List.Nodup
import UnitConversion.Proofs.RegistryAdding
import UnitConversion.Proofs.RegistryIndex

/-!
# What a registry knows after any run of additions

No name occurs twice in a registry, whatever was added to it. A name therefore stands for one unit,
which is the stored form of the first unit that brought the name, and stands for it from then on.
-/

namespace UnitConversion

namespace Registry

variable {registry : Registry} {unit stored : MeasureUnit} {name : String}

/-- No two names among all names of all units are the same. -/
def Distinct (registry : Registry) : Prop := (registry.units.flatMap MeasureUnit.names).Nodup

/-- Adding a unit keeps the names distinct: it is stored under free names alone. -/
theorem Distinct.add (distinct : registry.Distinct) (unit : MeasureUnit) :
    (registry.add unit).1.Distinct := by
  unfold Distinct
  rw [units_add]
  cases hstored : unit.restrictNames? fun name => !registry.contains name with
  | none => simpa [Distinct] using distinct
  | some stored =>
    have hnames := MeasureUnit.names_of_restrictNames? hstored
    rw [List.flatMap_append, List.nodup_append]
    refine ⟨distinct, by simpa using stored.names_nodup, ?_⟩
    rintro known hknown other hother rfl
    have hcontains : registry.contains known = true := by
      rw [contains_iff]
      simpa using hknown
    have hfree : registry.contains known = false := by
      simp only [Option.toList_some, List.flatMap_singleton, hnames, List.mem_filter] at hother
      simpa using hother.2
    rw [hfree] at hcontains
    contradiction

/-- Adding units one after another keeps the names distinct. -/
theorem Distinct.addAll (distinct : registry.Distinct) (units : List MeasureUnit) :
    (registry.addAll units).Distinct := by
  induction units generalizing registry with
  | nil => exact distinct
  | cons unit units ih => exact ih (distinct.add unit)

/-- Every run of additions ends with distinct names. -/
theorem distinct_addAll_empty (units : List MeasureUnit) : (empty.addAll units).Distinct :=
  Distinct.addAll (show empty.Distinct from List.nodup_nil) units

/-- A name stands at one position only. -/
theorem Distinct.position_eq (distinct : registry.Distinct) {first second : Nat}
    {left right : MeasureUnit} (hfirst : registry.units[first]? = some left)
    (hsecond : registry.units[second]? = some right) (hleft : name ∈ left.names)
    (hright : name ∈ right.names) : first = second := by
  have hapart := List.pairwise_iff_getElem.mp (List.nodup_flatMap.mp distinct).2
  obtain ⟨hf, rfl⟩ := List.getElem?_eq_some_iff.mp hfirst
  obtain ⟨hs, rfl⟩ := List.getElem?_eq_some_iff.mp hsecond
  rcases Nat.lt_trichotomy first second with hlt | heq | hlt
  · exact absurd hright (hapart first second hf hs hlt hleft)
  · exact heq
  · exact absurd hleft (hapart second first hs hf hlt hright)

/-- What is found under a name is a unit with the name. -/
theorem mem_of_lookup (h : registry.lookup name = some unit) :
    unit ∈ registry.units ∧ name ∈ unit.names := by
  refine ⟨List.mem_of_find?_eq_some h, ?_⟩
  simpa [MeasureUnit.hasName] using List.find?_some h

/-- Among distinct names a unit is found under each of its names. -/
theorem Distinct.lookup_eq_some_iff (distinct : registry.Distinct) :
    registry.lookup name = some unit ↔ unit ∈ registry.units ∧ name ∈ unit.names := by
  refine ⟨mem_of_lookup, fun ⟨hunit, hname⟩ => ?_⟩
  have hknown : registry.contains name = true := contains_iff.mpr ⟨unit, hunit, hname⟩
  obtain ⟨found, hfound⟩ := Option.isSome_iff_exists.mp hknown
  obtain ⟨hin, hfoundName⟩ := mem_of_lookup hfound
  obtain ⟨first, hfirst⟩ := List.getElem?_of_mem hunit
  obtain ⟨second, hsecond⟩ := List.getElem?_of_mem hin
  have hposition := distinct.position_eq hfirst hsecond hname hfoundName
  rw [hposition, hsecond] at hfirst
  rw [hfound, hfirst]

/-- Nothing is found under a name that is not known. -/
theorem lookup_eq_none_iff_contains :
    registry.lookup name = none ↔ registry.contains name = false := by
  rw [contains, Option.isSome_eq_false_iff, Option.isNone_iff_eq_none]

/-- In a run of additions a name is known when some unit brought it. -/
theorem contains_addAll_empty {units : List MeasureUnit} :
    (empty.addAll units).contains name = units.any (·.hasName name) := by
  rw [Bool.eq_iff_iff, contains_addAll]
  simp [contains_iff, empty, MeasureUnit.hasName]

/-- A unit is stored when one of its names is free. -/
theorem add_snd_eq_none_iff :
    (registry.add unit).2 = none ↔ ∀ name ∈ unit.names, registry.contains name = true := by
  unfold add
  cases h : unit.restrictNames? fun name => !registry.contains name with
  | none => simpa using MeasureUnit.restrictNames?_eq_none_iff.mp h
  | some stored =>
    simp only [reduceCtorEq, false_iff]
    intro hall
    rw [MeasureUnit.restrictNames?_eq_none_iff.mpr (by simpa using hall)] at h
    contradiction

/-- A unit that is stored stands at the end. -/
theorem units_add_of_stored (h : (registry.add unit).2 = some stored) :
    (registry.add unit).1.units = registry.units ++ [stored] := by
  unfold add at h ⊢
  cases hstored : unit.restrictNames? fun name => !registry.contains name with
  | none => simp [hstored] at h
  | some other =>
    simp only [hstored, Option.some.injEq] at h
    rw [h]

/-- A unit is stored under its free names, and is otherwise what it was. -/
theorem description_of_add (h : (registry.add unit).2 = some stored) :
    stored.description =
      { unit.description with names := unit.names.filter fun name => !registry.contains name } := by
  unfold add at h
  cases hstored : unit.restrictNames? fun name => !registry.contains name with
  | none => simp [hstored] at h
  | some other =>
    simp only [hstored, Option.some.injEq] at h
    rw [← h]
    exact MeasureUnit.description_of_restrictNames? hstored

/-- The names that a unit is stored under are its free ones. -/
theorem names_of_add (h : (registry.add unit).2 = some stored) :
    stored.names = unit.names.filter fun name => !registry.contains name :=
  congrArg MeasureUnit.Description.names (description_of_add h)

/-- Adding a unit changes nothing exactly when it is not stored. -/
theorem add_fst_eq_iff : (registry.add unit).1 = registry ↔ (registry.add unit).2 = none := by
  constructor
  · intro hsame
    by_contra hsome
    obtain ⟨stored, hstored⟩ := Option.ne_none_iff_exists'.mp hsome
    have hunits := units_add_of_stored hstored
    rw [hsame] at hunits
    simp at hunits
  · intro hnone
    exact add_of_contains (add_snd_eq_none_iff.mp hnone)

/-- The names in conflict are those that the stored form lacks. -/
theorem conflicts_eq_removed (registry : Registry) (unit : MeasureUnit) :
    registry.conflicts unit = unit.names.filter fun name =>
      !(registry.add unit).2.any (·.hasName name) := by
  unfold conflicts
  apply List.filter_congr
  intro name hname
  cases hstored : (registry.add unit).2 with
  | none => simp [add_snd_eq_none_iff.mp hstored name hname]
  | some stored =>
    simp [MeasureUnit.hasName, names_of_add hstored, hname]

/-- A name that is new with a unit is found as the stored form of the unit, also after any further
additions. -/
theorem lookup_addAll_of_first (distinct : registry.Distinct) (later : List MeasureUnit)
    (hname : name ∈ unit.names) (hfree : registry.contains name = false) :
    ∃ stored, (registry.add unit).2 = some stored ∧
      ((registry.add unit).1.addAll later).lookup name = some stored := by
  have hstored : (registry.add unit).2 ≠ none := by
    intro hnone
    have hknown := add_snd_eq_none_iff.mp hnone name hname
    rw [hfree] at hknown
    contradiction
  obtain ⟨stored, hstored⟩ := Option.ne_none_iff_exists'.mp hstored
  refine ⟨stored, hstored, lookup_addAll_of_some ?_⟩
  rw [(distinct.add unit).lookup_eq_some_iff, units_add_of_stored hstored, names_of_add hstored]
  simp [hname, hfree]

/-- What holds of the registry after units were added to an empty one, one after another. -/
structure History (units : List MeasureUnit) : Prop where
  /-- Nothing is found under a name that no unit brought. -/
  unknown : ∀ name, (empty.addAll units).lookup name = none ↔ ∀ unit ∈ units, name ∉ unit.names
  /-- What is found under a name stands at the one position whose unit has the name. -/
  owner : ∀ name stored, (empty.addAll units).lookup name = some stored ↔
    ∃ position, (empty.addAll units).units[position]? = some stored ∧
      ∀ (other : Nat) (unit : MeasureUnit), (empty.addAll units).units[other]? = some unit →
        (name ∈ unit.names ↔ other = position)
  /-- A name is found as the stored form of the first unit that brought it. -/
  first : ∀ before unit later name, units = before ++ unit :: later → name ∈ unit.names →
    (∀ earlier ∈ before, name ∉ earlier.names) →
      ∃ stored, ((empty.addAll before).add unit).2 = some stored ∧
        (empty.addAll units).lookup name = some stored
  /-- A further unit is stored at the end, with the names that no unit brought before it, in their
  order, and otherwise as it is. -/
  stored : ∀ unit stored, ((empty.addAll units).add unit).2 = some stored →
    ((empty.addAll units).add unit).1.units = (empty.addAll units).units ++ [stored] ∧
      stored.description = { unit.description with
        names := unit.names.filter fun name => !units.any (·.hasName name) }
  /-- A further unit is not stored exactly when all its names were brought before it. -/
  refused : ∀ unit, ((empty.addAll units).add unit).2 = none ↔
    ∀ name ∈ unit.names, ∃ earlier ∈ units, name ∈ earlier.names
  /-- Nothing changes exactly then. -/
  unchanged : ∀ unit, ((empty.addAll units).add unit).1 = empty.addAll units ↔
    ∀ name ∈ unit.names, ∃ earlier ∈ units, name ∈ earlier.names
  /-- Further units stand behind those that are there. -/
  grows : ∀ later, (empty.addAll units).units <+: (empty.addAll (units ++ later)).units
  /-- An answer is never changed by further units. -/
  lasting : ∀ later name unit, (empty.addAll units).lookup name = some unit →
    (empty.addAll (units ++ later)).lookup name = some unit
  /-- The conflicts of a further unit are the names that it is not stored under. -/
  conflicts : ∀ unit, (empty.addAll units).conflicts unit = unit.names.filter fun name =>
    !((empty.addAll units).add unit).2.any (·.hasName name)
  /-- An index that is kept along gives the same answers. -/
  indexed : (IndexedRegistry.empty.addAll units).Indexes (empty.addAll units) ∧
    (∀ name, (IndexedRegistry.empty.addAll units).lookup name =
      (empty.addAll units).lookup name) ∧
    ∀ unit, (IndexedRegistry.empty.addAll units).conflicts unit =
        (empty.addAll units).conflicts unit ∧
      ((IndexedRegistry.empty.addAll units).add unit).2 = ((empty.addAll units).add unit).2

/-- In a run of additions a name is known exactly when some unit brought it. -/
theorem forall_contains_addAll_empty_iff {units : List MeasureUnit} :
    (∀ name ∈ unit.names, (empty.addAll units).contains name = true) ↔
      ∀ name ∈ unit.names, ∃ earlier ∈ units, name ∈ earlier.names := by
  simp [contains_addAll_empty, MeasureUnit.hasName]

/-- The position of what is found is the only one whose unit has the name. -/
theorem Distinct.lookup_eq_some_iff_position (distinct : registry.Distinct) :
    registry.lookup name = some stored ↔
      ∃ position, registry.units[position]? = some stored ∧
        ∀ (other : Nat) (unit : MeasureUnit), registry.units[other]? = some unit →
          (name ∈ unit.names ↔ other = position) := by
  rw [distinct.lookup_eq_some_iff]
  constructor
  · rintro ⟨hstored, hname⟩
    obtain ⟨position, hposition⟩ := List.getElem?_of_mem hstored
    refine ⟨position, hposition, fun other unit hother => ⟨fun hunit => ?_, ?_⟩⟩
    · exact distinct.position_eq hother hposition hunit hname
    · rintro rfl
      rw [hposition, Option.some.injEq] at hother
      rwa [← hother]
  · rintro ⟨position, hposition, honly⟩
    exact ⟨List.mem_of_getElem? hposition, (honly position stored hposition).mpr rfl⟩

/-- Every run of additions has these properties. -/
theorem history_addAll (units : List MeasureUnit) : History units where
  unknown := by
    intro name
    rw [lookup_eq_none_iff_contains, contains_addAll_empty]
    simp [MeasureUnit.hasName]
  owner := fun name stored => (distinct_addAll_empty units).lookup_eq_some_iff_position
  first := by
    rintro before unit later name rfl hname hfree
    have hunknown : (empty.addAll before).contains name = false := by
      rw [contains_addAll_empty]
      simpa [MeasureUnit.hasName] using hfree
    rw [addAll_append, addAll_cons]
    exact lookup_addAll_of_first (distinct_addAll_empty before) later hname hunknown
  stored := by
    intro unit stored hstored
    refine ⟨units_add_of_stored hstored, ?_⟩
    rw [description_of_add hstored]
    simp only [contains_addAll_empty]
  refused := fun unit => add_snd_eq_none_iff.trans forall_contains_addAll_empty_iff
  unchanged := fun unit =>
    add_fst_eq_iff.trans (add_snd_eq_none_iff.trans forall_contains_addAll_empty_iff)
  grows := by
    intro later
    obtain ⟨added, hadded⟩ := exists_units_addAll (empty.addAll units) later
    exact ⟨added, by rw [addAll_append, hadded]⟩
  lasting := by
    intro later name unit hlookup
    rw [addAll_append]
    exact lookup_addAll_of_some hlookup
  conflicts := conflicts_eq_removed (empty.addAll units)
  indexed := by
    have indexes := IndexedRegistry.indexes_empty.addAll units
    exact ⟨indexes, indexes.lookup, fun unit => ⟨indexes.conflicts unit, (indexes.add unit).2⟩⟩

end Registry

end UnitConversion

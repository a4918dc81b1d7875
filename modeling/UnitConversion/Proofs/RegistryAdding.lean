import Mathlib.Data.List.Induction
import Mathlib.Logic.Function.Basic
import UnitConversion.Registry

/-!
# Adding units to a registry

A registry grows at its end. A unit that is added keeps the names that are still free, so a name
stays with the unit that brought it first. Units may be reduced to their free names among themselves
before they are added; the outcome is the same.
-/

namespace UnitConversion

namespace MeasureUnit

/-- What a unit is, apart from the proofs that it is a valid one. -/
structure Description where
  /-- The primary name first, then the aliases. -/
  names : List String
  /-- What the unit measures. -/
  quantity : Quantity
  /-- How many reference units make one of the unit. -/
  factor : Float
  /-- The reference value at the unit's zero. -/
  offset : Float
  /-- The exponent that is applied to metric prefixes. -/
  dimensions : Int
  /-- The unit counts the reciprocal of what the reference unit counts. -/
  inverse : Bool

/-- The description of a unit. -/
def description (unit : MeasureUnit) : Description :=
  { names := unit.names
    quantity := unit.quantity
    factor := unit.factor
    offset := unit.offset
    dimensions := unit.dimensions
    inverse := unit.inverse }

/-- A unit is known by its description. -/
theorem description_injective : Function.Injective description := by
  intro left right h
  cases left
  cases right
  simp only [description, Description.mk.injEq, Int.natCast_inj] at h
  obtain ⟨rfl, rfl, rfl, rfl, rfl, rfl⟩ := h
  rfl

/-- The description with only those names that satisfy a condition, if any does. -/
def Description.restrictNames? (description : Description) (keep : String → Bool) :
    Option Description :=
  if description.names.filter keep = [] then none
  else some { description with names := description.names.filter keep }

/-- Restricting the names of a unit restricts those of its description. -/
theorem restrictNames?_description (unit : MeasureUnit) (keep : String → Bool) :
    (unit.restrictNames? keep).map description = unit.description.restrictNames? keep := by
  unfold restrictNames? Description.restrictNames?
  by_cases h : unit.names.filter keep = []
  · simp [h, description]
  · simp [h, description]

/-- No unit is left exactly when none of the names is kept. -/
theorem restrictNames?_eq_none_iff {unit : MeasureUnit} {keep : String → Bool} :
    unit.restrictNames? keep = none ↔ ∀ name ∈ unit.names, keep name = false := by
  unfold restrictNames?
  split
  · simpa [List.filter_eq_nil_iff] using ‹unit.names.filter keep = []›
  · simpa [List.filter_eq_nil_iff] using ‹¬unit.names.filter keep = []›

/-- A restricted unit differs from the unit in its names alone. -/
theorem description_of_restrictNames? {unit stored : MeasureUnit} {keep : String → Bool}
    (h : unit.restrictNames? keep = some stored) :
    stored.description = { unit.description with names := unit.names.filter keep } := by
  unfold restrictNames? at h
  split at h
  · contradiction
  · cases h
    rfl

/-- The names of a restricted unit are those of the unit that are kept. -/
theorem names_of_restrictNames? {unit stored : MeasureUnit} {keep : String → Bool}
    (h : unit.restrictNames? keep = some stored) : stored.names = unit.names.filter keep :=
  congrArg Description.names (description_of_restrictNames? h)

/-- Units that differ in their names alone are restricted to one unit when the same names are
kept. -/
theorem restrictNames?_congr {left right : MeasureUnit} {keepLeft keepRight : String → Bool}
    (hsame : left.description = { right.description with names := left.names })
    (hnames : left.names.filter keepLeft = right.names.filter keepRight) :
    left.restrictNames? keepLeft = right.restrictNames? keepRight := by
  apply Option.map_injective description_injective
  rw [restrictNames?_description, restrictNames?_description, hsame]
  unfold Description.restrictNames?
  by_cases h : right.names.filter keepRight = [] <;> simp [description, hnames, h]

/-- A second restriction does not see a first one that keeps no less. -/
theorem restrictNames?_of_restrictNames? {unit stored : MeasureUnit} {keep first : String → Bool}
    (h : unit.restrictNames? first = some stored)
    (weaker : ∀ name, keep name = true → first name = true) :
    stored.restrictNames? keep = unit.restrictNames? keep := by
  have hnames := names_of_restrictNames? h
  apply restrictNames?_congr
  · rw [description_of_restrictNames? h, hnames]
  · rw [hnames, List.filter_filter]
    apply List.filter_congr
    intro name _
    cases hk : keep name with
    | false => rfl
    | true => simp [weaker name hk]

end MeasureUnit

namespace Registry

variable {registry : Registry} {name : String} {unit : MeasureUnit}

/-- A registry is known by the descriptions of its units. -/
theorem map_description_inj {left right : Registry} :
    left.units.map MeasureUnit.description = right.units.map MeasureUnit.description ↔
      left = right := by
  constructor
  · intro h
    have hunits :=
      (List.map_inj_right fun _ _ hsame => MeasureUnit.description_injective hsame).mp h
    cases left
    cases right
    cases hunits
    rfl
  · rintro rfl
    rfl

/-- A name is known when some unit has it. -/
theorem contains_iff :
    registry.contains name = true ↔ ∃ unit ∈ registry.units, name ∈ unit.names := by
  simp [contains, lookup, MeasureUnit.hasName]

/-- Add units one after another. -/
def addAll (registry : Registry) (units : List MeasureUnit) : Registry :=
  units.foldl (fun registry unit => (registry.add unit).1) registry

@[simp]
theorem addAll_nil (registry : Registry) : registry.addAll [] = registry := rfl

@[simp]
theorem addAll_cons (registry : Registry) (unit : MeasureUnit) (units : List MeasureUnit) :
    registry.addAll (unit :: units) = (registry.add unit).1.addAll units := rfl

theorem addAll_append (registry : Registry) (first second : List MeasureUnit) :
    registry.addAll (first ++ second) = (registry.addAll first).addAll second := by
  simp [addAll]

/-- What adding a unit puts at the end of the list. -/
theorem units_add (registry : Registry) (unit : MeasureUnit) :
    (registry.add unit).1.units =
      registry.units ++ (unit.restrictNames? fun name => !registry.contains name).toList := by
  unfold add
  cases unit.restrictNames? fun name => !registry.contains name <;> simp

/-- The names after adding a unit are those before it and those of the unit. -/
theorem contains_add : (registry.add unit).1.contains name = true ↔
    registry.contains name = true ∨ name ∈ unit.names := by
  rw [contains_iff, units_add, contains_iff]
  cases h : unit.restrictNames? fun name => !registry.contains name with
  | none =>
    have hall := MeasureUnit.restrictNames?_eq_none_iff.mp h
    simp only [Option.toList_none, List.append_nil]
    refine ⟨Or.inl, ?_⟩
    rintro (hin | hin)
    · exact hin
    · exact contains_iff.mp (by simpa using hall name hin)
  | some stored =>
    have hnames := MeasureUnit.names_of_restrictNames? h
    simp only [Option.toList_some, List.mem_append, List.mem_singleton, or_and_right,
      exists_or, exists_eq_left, hnames, List.mem_filter]
    rw [← contains_iff]
    by_cases hin : registry.contains name = true <;> simp [hin]

/-- The names after adding units are those before them and theirs. -/
theorem contains_addAll {units : List MeasureUnit} : (registry.addAll units).contains name = true ↔
    registry.contains name = true ∨ ∃ unit ∈ units, name ∈ unit.names := by
  induction units generalizing registry with
  | nil => simp
  | cons unit units ih =>
    rw [addAll_cons, ih, contains_add]
    simp [or_assoc]

/-- The list of units only grows at its end. -/
theorem exists_units_addAll (registry : Registry) (units : List MeasureUnit) :
    ∃ added, (registry.addAll units).units = registry.units ++ added := by
  induction units generalizing registry with
  | nil => exact ⟨[], by simp⟩
  | cons unit units ih =>
    obtain ⟨added, h⟩ := ih (registry.add unit).1
    rw [units_add, List.append_assoc] at h
    exact ⟨_, h⟩

/-- A name stays with its unit. -/
theorem lookup_addAll_of_some {units : List MeasureUnit} (h : registry.lookup name = some unit) :
    (registry.addAll units).lookup name = some unit := by
  obtain ⟨added, hadded⟩ := exists_units_addAll registry units
  unfold lookup at h ⊢
  rw [hadded, List.find?_append, h]
  rfl

/-- Adding a unit whose names are all taken changes nothing. -/
theorem add_of_contains (h : ∀ name ∈ unit.names, registry.contains name = true) :
    (registry.add unit).1 = registry := by
  have hnone : (unit.restrictNames? fun name => !registry.contains name) = none := by
    rw [MeasureUnit.restrictNames?_eq_none_iff]
    intro name hin
    simp [h name hin]
  unfold add
  rw [hnone]

/-- A unit that was reduced before, by names that are all taken, is stored like the whole unit. -/
theorem add_of_restrictNames? {stored : MeasureUnit} {keep : String → Bool}
    (h : unit.restrictNames? keep = some stored)
    (taken : ∀ name, keep name = false → registry.contains name = true) :
    registry.add stored = registry.add unit := by
  have hsame : (stored.restrictNames? fun name => !registry.contains name) =
      unit.restrictNames? fun name => !registry.contains name := by
    apply MeasureUnit.restrictNames?_of_restrictNames? h
    intro name hfree
    by_contra hkeep
    simp [taken name (by simpa using hkeep)] at hfree
  unfold add
  rw [hsame]

/-- Units that are first added to an empty registry, and then from there, are stored like units that
are added at once. A name that an earlier unit took from a later one is taken from it here too. -/
theorem addAll_units_addAll_empty (registry : Registry) (units : List MeasureUnit) :
    registry.addAll (empty.addAll units).units = registry.addAll units := by
  -- From the end, for a unit loses the names of those before it.
  induction units using List.reverseRecOn with
  | nil => rfl
  | append_singleton units unit ih =>
    have hsub : ∀ name, (empty.addAll units).contains name = true →
        (registry.addAll units).contains name = true := by
      intro name hin
      rw [contains_addAll] at hin ⊢
      exact .inr (hin.resolve_left (by simp [contains_iff, empty]))
    rw [addAll_append, addAll_append, addAll_cons, addAll_nil, addAll_cons, addAll_nil, units_add]
    cases h : unit.restrictNames? fun name => !(empty.addAll units).contains name with
    | none =>
      have hall := MeasureUnit.restrictNames?_eq_none_iff.mp h
      rw [Option.toList_none, List.append_nil, ih, add_of_contains]
      intro name hin
      exact hsub name (by simpa using hall name hin)
    | some stored =>
      rw [Option.toList_some, addAll_append, ih, addAll_cons, addAll_nil]
      rw [add_of_restrictNames? h]
      intro name hkeep
      exact hsub name (by simpa using hkeep)

/-- Units that share no name with the registry are stored behind those that are there as they are
stored in an empty registry. -/
theorem units_addAll_of_disjoint {units : List MeasureUnit}
    (disjoint : ∀ name, registry.contains name = true →
      (empty.addAll units).contains name = false) :
    (registry.addAll units).units = registry.units ++ (empty.addAll units).units := by
  induction units using List.reverseRecOn with
  | nil => simp [empty]
  | append_singleton units unit ih =>
    simp only [addAll_append, addAll_cons, addAll_nil] at disjoint ⊢
    have hfree : ∀ name, registry.contains name = true →
        (empty.addAll units).contains name = false ∧ name ∉ unit.names := by
      intro name hin
      have := disjoint name hin
      rw [← Bool.not_eq_true, contains_add, not_or, Bool.not_eq_true] at this
      exact this
    have hkeep : (unit.restrictNames? fun name => !(registry.addAll units).contains name) =
        unit.restrictNames? fun name => !(empty.addAll units).contains name := by
      apply MeasureUnit.restrictNames?_congr rfl
      apply List.filter_congr
      intro name hname
      have hiff : (registry.addAll units).contains name = true ↔
          (empty.addAll units).contains name = true := by
        rw [contains_addAll, contains_addAll]
        have hout : registry.contains name ≠ true := fun hin => (hfree name hin).2 hname
        simp [hout, contains_iff, empty]
      rw [Bool.eq_iff_iff.mpr hiff]
    rw [units_add, units_add, ih fun name hin => (hfree name hin).1, hkeep, List.append_assoc]

end Registry

end UnitConversion

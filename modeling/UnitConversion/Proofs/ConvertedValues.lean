import Mathlib.Data.List.Forall2
import UnitConversion.Conversion
import UnitConversion.Proofs.Outcomes

/-!
# Values converted together

Values that are converted together are converted one by one: together they are converted when each
of them is, and the failure is that of the first value for the first reason.
-/

namespace UnitConversion

open Numeric

namespace Conversion

variable {values results : List Float} {source target : ResolvedUnit} {value result : Float}

/-- The converted value, before it is looked at whether it is finite. -/
def converted (source target : ResolvedUnit) (value : Float) : Float :=
  if isIdentity source target then value else apply source target value

/-- The failure of a value that is not finite. -/
def notFinite (value : Float) : ConversionError :=
  .invalidValue (shortestText value) (some "not finite")

/-- The failure of units of different quantities. -/
def incompatibleUnits (source target : ResolvedUnit) : ConversionError :=
  .incompatible source.unit.quantity.name target.unit.quantity.name (some source.displayName)
    (some target.displayName)

/-- Where nothing is converted a finite value has a finite result. -/
theorem find?_converted_of_isIdentity (hidentity : isIdentity source target = true)
    (hfinite : ∀ value ∈ values, value.isFinite = true) :
    values.find? (fun value => !(converted source target value).isFinite) = none := by
  rw [List.find?_eq_none]
  intro value hin
  simp [converted, hidentity, hfinite value hin]

/-- Values are looked at three times: whether they are finite, whether their unit converts to the
other one, and whether their results are finite. -/
theorem convertValues_eq (values : List Float) (source target : ResolvedUnit) :
    convertValues values source target =
      match values.find? fun value => !value.isFinite with
      | some value => .error (notFinite value)
      | none =>
        if compatible source target then
          match values.find? fun value => !(converted source target value).isFinite with
          | some value => .error (noFiniteResult source target value)
          | none => .ok (values.map (converted source target))
        else .error (incompatibleUnits source target) := by
  unfold convertValues
  cases hvalues : values.find? fun value => !value.isFinite with
  | some value => rfl
  | none =>
    have hfinite : ∀ value ∈ values, value.isFinite = true := by simpa using hvalues
    unfold checkCompatible
    dsimp only
    by_cases hcompatible : compatible source target = true
    · rw [if_pos hcompatible, if_pos hcompatible]
      by_cases hidentity : isIdentity source target = true
      · have hsame : converted source target = id := by
          funext value
          rw [converted, if_pos hidentity, id_eq]
        rw [find?_converted_of_isIdentity hidentity hfinite, hsame, List.map_id]
        simp only [hidentity, if_true]
        rfl
      · have happly : converted source target = apply source target := by
          funext value
          rw [converted, if_neg hidentity]
        rw [happly]
        simp only [hidentity]
        change (match values.find? fun value => !(apply source target value).isFinite with
          | some value => _
          | none => _) = _
        cases values.find? fun value => !(apply source target value).isFinite <;> rfl
    · rw [if_neg hcompatible, if_neg hcompatible]
      rfl

/-- Values that are converted are finite, their units have one quantity, and what each of them is
converted to is finite. -/
theorem convertValues_eq_ok_iff : convertValues values source target = .ok results ↔
    (∀ value ∈ values, value.isFinite = true) ∧ compatible source target = true ∧
      (∀ value ∈ values, (converted source target value).isFinite = true) ∧
      results = values.map (converted source target) := by
  rw [convertValues_eq]
  cases hvalues : values.find? fun value => !value.isFinite with
  | some bad =>
    have hin := List.mem_of_find?_eq_some hvalues
    have hbad := List.find?_some hvalues
    simp only [reduceCtorEq, false_iff]
    rintro ⟨hfinite, -⟩
    simp [hfinite bad hin] at hbad
  | none =>
    have hfinite : ∀ value ∈ values, value.isFinite = true := by simpa using hvalues
    dsimp only
    by_cases hcompatible : compatible source target = true
    · rw [if_pos hcompatible]
      cases hresults : values.find? fun value => !(converted source target value).isFinite with
      | some bad =>
        have hin := List.mem_of_find?_eq_some hresults
        have hbad := List.find?_some hresults
        simp only [reduceCtorEq, false_iff]
        rintro ⟨-, -, hall, -⟩
        simp [hall bad hin] at hbad
      | none =>
        have hall : ∀ value ∈ values, (converted source target value).isFinite = true := by
          simpa using hresults
        simp only [Except.ok.injEq]
        constructor
        · intro h
          exact ⟨hfinite, hcompatible, hall, h.symm⟩
        · rintro ⟨-, -, -, h⟩
          exact h.symm
    · rw [if_neg hcompatible]
      simp [hcompatible]

/-- There is a result for each value. -/
theorem length_of_convertValues (h : convertValues values source target = .ok results) :
    results.length = values.length := by
  obtain ⟨-, -, -, rfl⟩ := convertValues_eq_ok_iff.mp h
  rw [List.length_map]

/-- Values that are converted are finite, and so are their results. -/
theorem finite_of_convertValues (h : convertValues values source target = .ok results) :
    (∀ value ∈ values, value.isFinite = true) ∧ ∀ result ∈ results, result.isFinite = true := by
  obtain ⟨hvalues, -, hresults, rfl⟩ := convertValues_eq_ok_iff.mp h
  exact ⟨hvalues, List.forall_mem_map.mpr hresults⟩

/-- A single value that is converted is finite, the units have one quantity, and what the value is
converted to is finite. -/
theorem convert_eq_ok_iff : convert value source target = .ok result ↔
    value.isFinite = true ∧ compatible source target = true ∧
      (converted source target value).isFinite = true ∧ result = converted source target value := by
  unfold convert
  rw [Outcome.map_eq_ok]
  simp only [convertValues_eq_ok_iff, List.mem_singleton, forall_eq, List.map_singleton]
  constructor
  · rintro ⟨results, ⟨hvalue, hcompatible, hresult, rfl⟩, rfl⟩
    exact ⟨hvalue, hcompatible, hresult, rfl⟩
  · rintro ⟨hvalue, hcompatible, hresult, rfl⟩
    exact ⟨_, ⟨hvalue, hcompatible, hresult, rfl⟩, rfl⟩

/-- Whether a single value is converted depends on no more. -/
theorem exists_convert_eq_ok_iff : (∃ result, convert value source target = .ok result) ↔
    value.isFinite = true ∧ compatible source target = true ∧
      (converted source target value).isFinite = true := by
  simp only [convert_eq_ok_iff]
  constructor
  · rintro ⟨result, hvalue, hcompatible, hresult, -⟩
    exact ⟨hvalue, hcompatible, hresult⟩
  · rintro ⟨hvalue, hcompatible, hresult⟩
    exact ⟨_, hvalue, hcompatible, hresult, rfl⟩

/-- Why values are not converted: for the first value that is not finite; if there is none, for the
quantities of the units; and if these are the same, for the first value that alone is not converted
either. -/
inductive FailsFirst (values : List Float) (source target : ResolvedUnit) :
    ConversionError → Prop
  /-- A value is not finite, and those before it are. -/
  | notFinite {before after : List Float} {value : Float}
    (parts : values = before ++ value :: after)
    (earlier : ∀ other ∈ before, other.isFinite = true) (bad : value.isFinite = false) :
    FailsFirst values source target (notFinite value)
  /-- All values are finite, and the units are of different quantities. -/
  | incompatible (finite : ∀ value ∈ values, value.isFinite = true)
    (different : source.unit.quantity ≠ target.unit.quantity) :
    FailsFirst values source target (incompatibleUnits source target)
  /-- All values are finite, the units are of one quantity, and a value has no finite result, while
  those before it have one. -/
  | noFiniteResult {before after : List Float} {value : Float}
    (parts : values = before ++ value :: after)
    (finite : ∀ value ∈ values, value.isFinite = true)
    (same : source.unit.quantity = target.unit.quantity)
    (earlier : ∀ other ∈ before, ∃ result, convert other source target = .ok result)
    (bad : ∀ result, convert value source target ≠ .ok result) :
    FailsFirst values source target (noFiniteResult source target value)

/-- Units are compatible when they are of one quantity. -/
theorem compatible_iff : compatible source target = true ↔
    source.unit.quantity = target.unit.quantity := by
  simp [compatible]

/-- Values that are not converted fail for the first reason. -/
theorem failsFirst_of_convertValues {error : ConversionError}
    (h : convertValues values source target = .error error) :
    FailsFirst values source target error := by
  rw [convertValues_eq] at h
  cases hvalues : values.find? fun value => !value.isFinite with
  | some value =>
    rw [hvalues] at h
    cases h
    obtain ⟨hbad, before, after, hparts, hbefore⟩ := List.find?_eq_some_iff_append.mp hvalues
    exact .notFinite hparts (by simpa using hbefore) (by simpa using hbad)
  | none =>
    have hfinite : ∀ value ∈ values, value.isFinite = true := by simpa using hvalues
    rw [hvalues] at h
    dsimp only at h
    split at h
    · rename_i hcompatible
      cases hresults : values.find? fun value => !(converted source target value).isFinite with
      | some value =>
        rw [hresults] at h
        cases h
        obtain ⟨hbad, before, after, hparts, hbefore⟩ := List.find?_eq_some_iff_append.mp hresults
        have hnone : (converted source target value).isFinite = false := by simpa using hbad
        refine .noFiniteResult hparts hfinite (compatible_iff.mp hcompatible) (fun other hin => ?_)
          (fun result hresult => ?_)
        · have hother : other ∈ values := by simp [hparts, hin]
          exact exists_convert_eq_ok_iff.mpr
            ⟨hfinite other hother, hcompatible, by simpa using hbefore other hin⟩
        · rw [(convert_eq_ok_iff.mp hresult).2.2.1] at hnone
          contradiction
      | none => simp [hresults] at h
    · rename_i hdifferent
      cases h
      exact .incompatible hfinite fun hsame => hdifferent (compatible_iff.mpr hsame)

/-- The first reason not to convert values is the failure. -/
theorem FailsFirst.convertValues {error : ConversionError}
    (h : FailsFirst values source target error) :
    convertValues values source target = .error error := by
  rw [convertValues_eq]
  cases h with
  | @notFinite before after value parts earlier bad =>
    have hfind : (values.find? fun value => !value.isFinite) = some value :=
      List.find?_eq_some_iff_append.mpr
        ⟨by simp [bad], before, after, parts, by simpa using earlier⟩
    rw [hfind]
  | incompatible finite different =>
    have hfind : (values.find? fun value => !value.isFinite) = none := by simpa using finite
    rw [hfind]
    dsimp only
    rw [if_neg fun hcompatible => different (compatible_iff.mp hcompatible)]
  | @noFiniteResult before after value parts finite same earlier bad =>
    have hcompatible := compatible_iff.mpr same
    have hfind : (values.find? fun value => !value.isFinite) = none := by simpa using finite
    have hbad : (converted source target value).isFinite = false := by
      cases hresult : (converted source target value).isFinite with
      | false => rfl
      | true =>
        have hvalue := finite value (by simp [parts])
        exact absurd (convert_eq_ok_iff.mpr ⟨hvalue, hcompatible, hresult, rfl⟩) (bad _)
    have hbefore : ∀ other ∈ before, (converted source target other).isFinite = true :=
      fun other hin => (exists_convert_eq_ok_iff.mp (earlier other hin)).2.2
    have hresult : (values.find? fun value => !(converted source target value).isFinite) =
        some value :=
      List.find?_eq_some_iff_append.mpr
        ⟨by simp [hbad], before, after, parts, by simpa using hbefore⟩
    rw [hfind]
    dsimp only
    rw [if_pos hcompatible, hresult]

/-- Values that are converted together are converted one by one. -/
structure ConvertsEach (values : List Float) (source target : ResolvedUnit) : Prop where
  /-- Together they are converted when the units are of one quantity and each value alone is
  converted. -/
  succeeds : (∃ results, convertValues values source target = .ok results) ↔
    source.unit.quantity = target.unit.quantity ∧
      ∀ value ∈ values, ∃ result, convert value source target = .ok result
  /-- Each result is that of its own value. -/
  each : ∀ results, convertValues values source target = .ok results →
    List.Forall₂ (fun value result => convert value source target = .ok result) values results
  /-- All results are finite. -/
  finite : ∀ results, convertValues values source target = .ok results →
    ∀ result ∈ results, result.isFinite = true
  /-- When they are not converted, the failure is the first one. -/
  fails : ∀ error, convertValues values source target = .error error ↔
    FailsFirst values source target error

/-- So are all values. -/
theorem convertsEach (values : List Float) (source target : ResolvedUnit) :
    ConvertsEach values source target where
  succeeds := by
    simp only [convertValues_eq_ok_iff, exists_convert_eq_ok_iff, ← compatible_iff]
    constructor
    · rintro ⟨results, hfinite, hcompatible, hresults, -⟩
      exact ⟨hcompatible, fun value hin => ⟨hfinite value hin, hcompatible, hresults value hin⟩⟩
    · rintro ⟨hcompatible, hall⟩
      exact ⟨_, fun value hin => (hall value hin).1, hcompatible,
        fun value hin => (hall value hin).2.2, rfl⟩
  each := by
    intro results h
    obtain ⟨hfinite, hcompatible, hresults, rfl⟩ := convertValues_eq_ok_iff.mp h
    rw [List.forall₂_map_right_iff, List.forall₂_same]
    intro value hin
    exact convert_eq_ok_iff.mpr ⟨hfinite value hin, hcompatible, hresults value hin, rfl⟩
  finite := fun results h => (finite_of_convertValues h).2
  fails := fun error => ⟨failsFirst_of_convertValues, FailsFirst.convertValues⟩

end Conversion

end UnitConversion

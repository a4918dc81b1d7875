import UnitConversion.Proofs.RegistryAdding

/-!
# The checks of a unit

A description becomes a unit when it passes every check. Those that do are the descriptions of
units. Fewer names, each of them one of the old ones, pass as well, so a registry that checks a unit
once more after taking names from it never refuses one.
-/

namespace UnitConversion

namespace MeasureUnit

/-- A unit that may keep all its names stays as it is. -/
theorem restrictNames?_self {unit : MeasureUnit} {keep : String → Bool}
    (h : unit.names.filter keep = unit.names) : unit.restrictNames? keep = some unit := by
  apply Option.map_injective description_injective
  rw [restrictNames?_description]
  unfold Description.restrictNames?
  simp [description, h, unit.names_ne_nil]

/-- A unit is made from its own parts. -/
theorem make_self (unit : MeasureUnit) :
    make unit.names unit.quantity unit.factor unit.offset unit.dimensions unit.inverse =
      .ok unit := by
  have hrange := unit.dimensions_valid
  unfold make
  rw [dif_pos unit.names_ne_nil, dif_pos unit.names_nodup, dif_pos unit.factor_valid,
    dif_pos unit.offset_finite, dif_pos (by omega)]
  rfl

namespace Description

variable {description : Description} {unit : MeasureUnit}

/-- Make the unit that is described, if the description passes every check. -/
def check (description : Description) : Except UnitDefect MeasureUnit :=
  make description.names description.quantity description.factor description.offset
    description.dimensions description.inverse

/-- What is checked of a description. -/
structure Valid (description : Description) : Prop where
  /-- There is a primary name. -/
  names_ne_nil : description.names ≠ []
  /-- No name occurs twice. -/
  names_nodup : description.names.Nodup
  /-- The factor is a positive finite number. -/
  factor_valid : description.factor.isFinite = true ∧ 0 < description.factor
  /-- The offset is a finite number. -/
  offset_finite : description.offset.isFinite = true
  /-- The exponent of prefixes is in range. -/
  dimensions_valid : 1 ≤ description.dimensions ∧ description.dimensions ≤ maxDimensions

/-- The description of a unit is valid. -/
theorem valid_description (unit : MeasureUnit) : unit.description.Valid where
  names_ne_nil := unit.names_ne_nil
  names_nodup := unit.names_nodup
  factor_valid := unit.factor_valid
  offset_finite := unit.offset_finite
  dimensions_valid := by
    have hrange := unit.dimensions_valid
    simp only [description]
    omega

/-- A valid description is that of a unit. -/
theorem Valid.exists_unit (valid : description.Valid) :
    ∃ unit : MeasureUnit, unit.description = description := by
  have hrange := valid.dimensions_valid
  have hcast : (description.dimensions.toNat : Int) = description.dimensions := by omega
  refine ⟨{ names := description.names
            quantity := description.quantity
            factor := description.factor
            offset := description.offset
            dimensions := description.dimensions.toNat
            inverse := description.inverse
            names_ne_nil := valid.names_ne_nil
            names_nodup := valid.names_nodup
            factor_valid := valid.factor_valid
            offset_finite := valid.offset_finite
            dimensions_valid := by omega }, ?_⟩
  simp only [MeasureUnit.description, hcast]

/-- The checks let a description pass exactly when it is that of the unit which they give. -/
theorem check_eq_ok_iff : description.check = .ok unit ↔ unit.description = description := by
  constructor
  · intro h
    unfold check make at h
    split at h
    · split at h
      · split at h
        · split at h
          · split at h
            · cases h
              have hcast : (description.dimensions.toNat : Int) = description.dimensions := by omega
              simp only [MeasureUnit.description, hcast]
            · contradiction
          · contradiction
        · contradiction
      · contradiction
    · contradiction
  · rintro rfl
    exact make_self unit

/-- The checks let exactly the valid descriptions pass. -/
theorem exists_check_eq_ok_iff : (∃ unit, description.check = .ok unit) ↔ description.Valid := by
  constructor
  · rintro ⟨unit, h⟩
    rw [← check_eq_ok_iff.mp h]
    exact valid_description unit
  · intro valid
    obtain ⟨unit, hunit⟩ := valid.exists_unit
    exact ⟨unit, check_eq_ok_iff.mpr hunit⟩

/-- A valid description stays valid with fewer names, as long as one is left. -/
theorem Valid.fewer_names (valid : description.Valid) {names : List String} (left : names ≠ [])
    (fewer : names.Sublist description.names) : ({ description with names } : Description).Valid :=
  { valid with
    names_ne_nil := left
    names_nodup := valid.names_nodup.sublist fewer }

end Description

end MeasureUnit

namespace Registry

open MeasureUnit

/-- Add a unit as it is when its names are free. Else reduce its description to the free names and
check that like the description of a new unit. -/
def addChecked (registry : Registry) (unit : MeasureUnit) :
    Except UnitDefect (Registry × Option MeasureUnit) :=
  if (registry.conflicts unit).isEmpty then .ok (⟨registry.units ++ [unit]⟩, some unit)
  else
    let free := unit.names.filter fun name => !registry.contains name
    if free.isEmpty then .ok (registry, none)
    else do
      let stored ← { unit.description with names := free : Description }.check
      return (⟨registry.units ++ [stored]⟩, some stored)

/-- Reducing a unit to its free names never fails the checks, and the unit is stored as `add` stores
it. -/
theorem addChecked_eq (registry : Registry) (unit : MeasureUnit) :
    registry.addChecked unit = .ok (registry.add unit) := by
  unfold addChecked add
  by_cases hfree : (registry.conflicts unit).isEmpty = true
  · have hkept : (unit.names.filter fun name => !registry.contains name) = unit.names := by
      rw [List.isEmpty_iff, conflicts, List.filter_eq_nil_iff] at hfree
      exact List.filter_eq_self.mpr (by simpa using hfree)
    rw [if_pos hfree, restrictNames?_self hkept]
  · rw [if_neg hfree]
    cases hstored : unit.restrictNames? fun name => !registry.contains name with
    | none =>
      have htaken := restrictNames?_eq_none_iff.mp hstored
      have hnone : (unit.names.filter fun name => !registry.contains name) = [] :=
        List.filter_eq_nil_iff.mpr fun name hin => by simp [htaken name hin]
      simp only [hnone, List.isEmpty_nil, if_true]
    | some stored =>
      have hleft : (unit.names.filter fun name => !registry.contains name).isEmpty = false := by
        rw [← names_of_restrictNames? hstored, List.isEmpty_eq_false_iff]
        exact stored.names_ne_nil
      -- What is left of the description is that of the stored unit, so it passes the checks.
      have hcheck := Description.check_eq_ok_iff.mpr (description_of_restrictNames? hstored)
      simp only [hleft, hcheck, Bool.false_eq_true, if_false]
      rfl

end Registry

end UnitConversion

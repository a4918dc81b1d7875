import Mathlib.Data.List.Dedup
import UnitConversion.Proofs.DeclaredUnits
import UnitConversion.Proofs.ExactNumbers
import UnitConversion.Proofs.LineReading
import UnitConversion.Proofs.Outcomes
import UnitConversion.Proofs.UnitChecks

/-!
# From fields to a unit

A declaration holds each field at most once, under the first line whose value the field accepts. The
fields accept only what a unit may have, so a declaration whose required fields are set always
describes a unit.
-/

namespace UnitConversion.UnitsFile

open Text MeasureUnit

/-- The description that a name and the settings of the fields give, if the quantity and the factor
are set. The aliases come behind the name without repeats; fields that are not set have their
defaults. -/
def describe (name : String) (setting? : Field → Option Setting) : Option Description :=
  match setting? .quantity, setting? .factor with
  | some (.quantity quantity), some (.factor factor) =>
    let aliases :=
      match setting? .aliases with
      | some (.aliases names) => names
      | _ => []
    some
      { names := (name :: aliases).eraseDups
        quantity := quantity
        factor := factor
        offset :=
          match setting? .zeroPoint with
          | some (.zeroPoint offset) => offset
          | _ => 0.0
        dimensions :=
          match setting? .dimensions with
          | some (.dimensions dimensions) => dimensions
          | _ => 1
        inverse :=
          match setting? .inverse with
          | some (.inverse inverse) => inverse
          | _ => false }
  | _, _ => none

namespace Setting

/-- The value is one that a unit may have. -/
def Valid : Setting → Prop
  | factor number => number.isFinite = true ∧ 0 < number
  | zeroPoint number => number.isFinite = true
  | dimensions number => 1 ≤ number ∧ number ≤ maxDimensions
  | aliases _ | quantity _ | inverse _ => True

end Setting

/-- A number that is read as finite is finite. -/
theorem isFinite_of_finite {key : String} {values : List String} {number : Float}
    (h : finite key values = .ok number) : number.isFinite = true := by
  obtain ⟨text, -, htext⟩ := Outcome.bind_eq_ok.mp h
  cases hread : Numeric.readNumber text with
  | error fault => exact absurd (hread ▸ htext) Outcome.throw_ne_ok
  | ok value =>
    simp only [hread] at htext
    split at htext
    · rw [← Outcome.pure_eq_ok.mp htext]
      assumption
    · exact absurd htext Outcome.throw_ne_ok

/-- A number that is read as positive is finite and greater than zero. -/
theorem pos_of_positive {key : String} {values : List String} {number : Float}
    (h : positive key values = .ok number) : number.isFinite = true ∧ 0 < number := by
  obtain ⟨value, hvalue, htest⟩ := Outcome.bind_eq_ok.mp h
  have hfinite := isFinite_of_finite hvalue
  split at htest
  · exact absurd htest Outcome.throw_ne_ok
  · rw [← Outcome.pure_eq_ok.mp htest]
    exact ⟨hfinite, (Numeric.not_le_zero_iff hfinite).mp ‹_›⟩

/-- What comes of a value is accepted when the value could be read. -/
theorem Reading.ofExcept_eq_accepted {α : Type} {make : α → Setting}
    {result : Except ValueFault α} {setting : Setting}
    (h : Reading.ofExcept make result = .accepted setting) :
    ∃ value, result = .ok value ∧ make value = setting := by
  cases result with
  | error fault => contradiction
  | ok value =>
    cases h
    exact ⟨value, rfl, rfl⟩

/-- Only an integer is too long to be read. -/
theorem Reading.ofExcept_ne_overlong {α : Type} {make : α → Setting}
    {result : Except ValueFault α} {failure : TooManyDigits} :
    Reading.ofExcept make result ≠ .overlong failure := by
  cases result <;> simp [Reading.ofExcept]

/-- What a field accepts is a value of the field that a unit may have. -/
theorem Field.read_sound {limit : DigitLimit} {field : Field} {key : String} {values : List String}
    {setting : Setting} (h : field.read limit key values = .accepted setting) :
    setting.field = field ∧ setting.Valid := by
  cases field with
  | aliases =>
    cases h
    exact ⟨rfl, trivial⟩
  | quantity =>
    obtain ⟨value, -, rfl⟩ := Reading.ofExcept_eq_accepted h
    exact ⟨rfl, trivial⟩
  | factor =>
    obtain ⟨value, hvalue, rfl⟩ := Reading.ofExcept_eq_accepted h
    exact ⟨rfl, pos_of_positive hvalue⟩
  | zeroPoint =>
    obtain ⟨value, hvalue, rfl⟩ := Reading.ofExcept_eq_accepted h
    exact ⟨rfl, isFinite_of_finite hvalue⟩
  | dimensions =>
    unfold Field.read at h
    cases htext : integerText key values with
    | error fault => simp [htext] at h
    | ok text =>
      simp only [htext, readDimensions] at h
      split at h
      · contradiction
      · split at h
        · cases h
          exact ⟨rfl, ‹_›⟩
        · contradiction
  | inverse =>
    obtain ⟨value, -, rfl⟩ := Reading.ofExcept_eq_accepted h
    exact ⟨rfl, trivial⟩

namespace Declaration

/-- The setting of a field; the first one of the list. -/
def setting? (declaration : Declaration) (field : Field) : Option Setting :=
  declaration.settings.find? (·.field == field)

/-- Every setting of the declaration is a value that a unit may have. -/
def Valid (declaration : Declaration) : Prop := ∀ setting ∈ declaration.settings, setting.Valid

/-- A field is set when a setting of it is found. -/
theorem isSome_setting? (declaration : Declaration) (field : Field) :
    (declaration.setting? field).isSome = declaration.sets field := by
  rw [setting?, sets, Bool.eq_iff_iff, List.find?_isSome, List.any_eq_true]

/-- What is found is among the settings. -/
theorem valid_of_setting? {declaration : Declaration} {field : Field} {setting : Setting}
    (valid : declaration.Valid) (h : declaration.setting? field = some setting) : setting.Valid :=
  valid setting (List.mem_of_find?_eq_some h)

/-- A part of the settings of one field is read off the first of them. -/
theorem findSome?_settings {α : Type} (declaration : Declaration) (field : Field)
    (get : Setting → Option α) (h : ∀ setting, (get setting).isSome = (setting.field == field)) :
    declaration.settings.findSome? get = (declaration.setting? field).bind get := by
  unfold setting?
  induction declaration.settings with
  | nil => rfl
  | cons setting settings ih =>
    rw [List.findSome?_cons, List.find?_cons, ← h setting]
    cases hget : get setting with
    | none => simpa using ih
    | some value => simp [hget]

/-- Joining further names to names keeps them and appends what is new, without repeats. -/
theorem joinNames_fst (names further : List String) :
    (joinNames names further).1 =
      names ++ (further.filter fun name => !names.contains name).eraseDups := by
  induction further generalizing names with
  | nil => simp [joinNames]
  | cons name further ih =>
    unfold joinNames
    by_cases hin : names.contains name = true
    · simp only [hin, if_true, List.filter_cons, Bool.not_true]
      simpa using ih names
    · have hfresh : ∀ other, (!(names ++ [name]).contains other) =
          (!other == name && !names.contains other) := by
        intro other
        rw [Bool.eq_iff_iff]
        simp [and_comm]
      rw [if_neg hin, ih, List.filter_cons, if_pos (by simpa using hin), List.eraseDups_cons,
        List.filter_filter]
      simp only [hfresh, List.append_assoc, List.singleton_append]

/-- The names of a declaration are its own name and its aliases, without repeats. -/
theorem joinNames_singleton (name : String) (aliases : List String) :
    (joinNames [name] aliases).1 = (name :: aliases).eraseDups := by
  have hother : ∀ other, (! [name].contains other) = (!other == name) := by
    intro other
    rw [Bool.eq_iff_iff]
    simp
  rw [joinNames_fst, List.eraseDups_cons]
  simp only [hother, List.singleton_append]

/-- Joining names that occur once with further ones gives names that occur once. -/
theorem nodup_joinNames {names : List String} (nodup : names.Nodup) (further : List String) :
    (joinNames names further).1.Nodup := by
  induction further generalizing names with
  | nil => exact nodup
  | cons name further ih =>
    unfold joinNames
    by_cases hin : names.contains name = true
    · rw [if_pos hin]
      exact ih nodup
    · rw [if_neg hin]
      apply ih
      have hnew : name ∉ names := by simpa using hin
      exact List.nodup_append.mpr ⟨nodup, by simp, by
        intro old hold other hother
        rw [List.mem_singleton.mp hother]
        rintro rfl
        exact hnew hold⟩

/-- Each part of a declaration is read off the setting of its field. -/
theorem fields_eq (declaration : Declaration) :
    declaration.quantity? = (match declaration.setting? .quantity with
      | some (.quantity quantity) => some quantity
      | _ => none) ∧
    declaration.factor? = (match declaration.setting? .factor with
      | some (.factor factor) => some factor
      | _ => none) ∧
    declaration.aliases = (match declaration.setting? .aliases with
      | some (.aliases names) => names
      | _ => []) ∧
    declaration.zeroPoint = (match declaration.setting? .zeroPoint with
      | some (.zeroPoint offset) => offset
      | _ => 0.0) ∧
    declaration.dimensions = (match declaration.setting? .dimensions with
      | some (.dimensions dimensions) => dimensions
      | _ => 1) ∧
    declaration.inverse = (match declaration.setting? .inverse with
      | some (.inverse inverse) => inverse
      | _ => false) := by
  unfold quantity? factor? aliases zeroPoint dimensions inverse
  rw [findSome?_settings declaration .quantity _ (by rintro (_ | _ | _ | _ | _ | _) <;> rfl),
    findSome?_settings declaration .factor _ (by rintro (_ | _ | _ | _ | _ | _) <;> rfl),
    findSome?_settings declaration .aliases _ (by rintro (_ | _ | _ | _ | _ | _) <;> rfl),
    findSome?_settings declaration .zeroPoint _ (by rintro (_ | _ | _ | _ | _ | _) <;> rfl),
    findSome?_settings declaration .dimensions _ (by rintro (_ | _ | _ | _ | _ | _) <;> rfl),
    findSome?_settings declaration .inverse _ (by rintro (_ | _ | _ | _ | _ | _) <;> rfl)]
  refine ⟨?_, ?_, ?_, ?_, ?_, ?_⟩
  · rcases declaration.setting? .quantity with _ | (_ | _ | _ | _ | _ | _) <;> rfl
  · rcases declaration.setting? .factor with _ | (_ | _ | _ | _ | _ | _) <;> rfl
  · rcases declaration.setting? .aliases with _ | (_ | _ | _ | _ | _ | _) <;> rfl
  · rcases declaration.setting? .zeroPoint with _ | (_ | _ | _ | _ | _ | _) <;> rfl
  · rcases declaration.setting? .dimensions with _ | (_ | _ | _ | _ | _ | _) <;> rfl
  · rcases declaration.setting? .inverse with _ | (_ | _ | _ | _ | _ | _) <;> rfl

/-- What settings with valid values describe is valid. -/
theorem valid_of_describe {name : String} {setting? : Field → Option Setting}
    {description : Description}
    (valid : ∀ field setting, setting? field = some setting → setting.Valid)
    (h : describe name setting? = some description) : description.Valid := by
  unfold describe at h
  split at h
  · rename_i quantity factor hquantity hfactor
    cases h
    constructor
    · simp [List.eraseDups_cons]
    · rw [← joinNames_singleton]
      exact nodup_joinNames (List.nodup_singleton name) _
    · exact valid _ _ hfactor
    -- A field that is not set has its default, which is valid.
    · dsimp only
      split
      · exact valid _ _ ‹_›
      · rfl
    · dsimp only
      split
      · exact valid _ _ ‹_›
      · decide
  · contradiction

/-- The settings of a declaration describe what its parts do. -/
theorem describe_setting? (declaration : Declaration) :
    describe declaration.name declaration.setting? =
      declaration.quantity?.bind fun quantity => declaration.factor?.map fun factor =>
        { names := (declaration.name :: declaration.aliases).eraseDups
          quantity := quantity
          factor := factor
          offset := declaration.zeroPoint
          dimensions := declaration.dimensions
          inverse := declaration.inverse } := by
  obtain ⟨hquantity, hfactor, haliases, hzeroPoint, hdimensions, hinverse⟩ := declaration.fields_eq
  rw [hquantity, hfactor, haliases, hzeroPoint, hdimensions, hinverse]
  unfold describe
  rcases declaration.setting? .quantity with _ | (_ | _ | _ | _ | _ | _) <;>
    rcases declaration.setting? .factor with _ | (_ | _ | _ | _ | _ | _) <;> rfl

/-- The description that the parts of a declaration give, before anything of it is checked. -/
def described (declaration : Declaration) (quantity : Quantity) (factor : Float) : Description :=
  { names := (joinNames [declaration.name] declaration.aliases).1
    quantity := quantity
    factor := factor
    offset := declaration.zeroPoint
    dimensions := declaration.dimensions
    inverse := declaration.inverse }

variable {declaration : Declaration} {quantity : Quantity} {factor : Float}

/-- The settings of a declaration whose required fields are set describe what its parts give. -/
theorem describe_eq_described (hquantity : declaration.quantity? = some quantity)
    (hfactor : declaration.factor? = some factor) :
    describe declaration.name declaration.setting? =
      some (declaration.described quantity factor) := by
  rw [describe_setting?, hquantity, hfactor, described, joinNames_singleton]
  rfl

/-- What the parts of a valid declaration give is valid. -/
theorem valid_described (valid : declaration.Valid)
    (hquantity : declaration.quantity? = some quantity)
    (hfactor : declaration.factor? = some factor) :
    (declaration.described quantity factor).Valid :=
  valid_of_describe (fun _ _ h => valid_of_setting? valid h)
    (describe_eq_described hquantity hfactor)

/-- What a valid declaration describes passes the checks, so a unit is made of it. -/
theorem exists_unit_eq_ok (valid : declaration.Valid)
    (hquantity : declaration.quantity? = some quantity)
    (hfactor : declaration.factor? = some factor) :
    ∃ unit, declaration.unit (joinNames [declaration.name] declaration.aliases).1 quantity factor =
        .ok unit ∧ unit.description = declaration.described quantity factor := by
  obtain ⟨unit, hunit⟩ := (valid_described valid hquantity hfactor).exists_unit
  exact ⟨unit, Description.check_eq_ok_iff.mpr hunit, hunit⟩

/-- A valid declaration describes a unit as soon as its required fields are set. -/
theorem unit?_description (valid : declaration.Valid) :
    declaration.unit?.map description = describe declaration.name declaration.setting? := by
  unfold unit?
  cases hquantity : declaration.quantity? with
  | none =>
    rw [describe_setting?, hquantity]
    rfl
  | some quantity =>
    cases hfactor : declaration.factor? with
    | none =>
      rw [describe_setting?, hquantity, hfactor]
      rfl
    | some factor =>
      obtain ⟨unit, hunit, hdescription⟩ := exists_unit_eq_ok valid hquantity hfactor
      rw [describe_eq_described hquantity hfactor, ← hdescription]
      simp only [hunit, Except.toOption, Option.map_some]

/-- A line that gives a key and values sets the field of the key, unless it is set or the values are
refused. -/
theorem assign_sound {limit : DigitLimit} {declaration after : Declaration} {key : String}
    {values : List String} (valid : declaration.Valid)
    (h : declaration.assign limit key values = .ok after) :
    after.name = declaration.name ∧ after.Valid ∧ ∀ field, after.setting? field =
      (declaration.setting? field).or ((Entry.assignment key values).setting? limit field) := by
  unfold assign at h
  cases hkey : Field.ofKey? key with
  | none =>
    simp only [hkey] at h
    cases h
    exact ⟨rfl, valid, by simp [Entry.setting?, hkey]⟩
  | some field =>
    simp only [hkey] at h
    by_cases hset : declaration.sets field = true
    · rw [if_pos hset] at h
      cases h
      refine ⟨rfl, valid, ?_⟩
      intro other
      by_cases hother : field = other
      · subst hother
        rw [← isSome_setting?] at hset
        rw [Option.or_of_isSome hset]
      · simp [Entry.setting?, hkey, hother]
    · rw [if_neg hset] at h
      cases hread : field.read limit key values with
      | accepted setting =>
        simp only [hread] at h
        cases h
        obtain ⟨hfield, hvalid⟩ := Field.read_sound hread
        refine ⟨rfl, ?_, ?_⟩
        · intro other hmem
          rcases List.mem_append.mp hmem with hold | hnew
          · exact valid other hold
          · rw [List.mem_singleton.mp hnew]
            exact hvalid
        · intro other
          simp only [setting?, List.find?_append, Entry.setting?, hkey]
          by_cases hother : field = other
          · subst hother
            simp [hread, hfield]
          · simp [hfield, hother]
      | refused fault =>
        simp only [hread] at h
        cases h
        refine ⟨rfl, valid, ?_⟩
        intro other
        by_cases hother : field = other
        · subst hother
          simp [Entry.setting?, hkey, hread]
        · simp [Entry.setting?, hkey, hother]
      | overlong failure =>
        simp only [hread] at h
        contradiction

end Declaration

end UnitConversion.UnitsFile

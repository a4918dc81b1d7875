import Mathlib.Algebra.Order.Field.Rat
import Mathlib.Data.Option.NAry
import Mathlib.Tactic.FieldSimp
import UnitConversion.Conversion
import UnitConversion.Proofs.ExactNumbers

/-!
# Conversions in exact arithmetic

The steps of a conversion over the rationals, where a division by zero has no result. Every unit has
a way into reference units and a way back that undoes it, and a conversion goes one way and then the
other. So it does not matter through which units a value is converted, and a value that is converted
back is the one that it was.
-/

namespace UnitConversion

open Numeric

/-- A rational, or nothing where a division by zero was made. -/
abbrev Exact := Option ℚ

instance : Arithmetic Exact where
  add := Option.map₂ (· + ·)
  sub := Option.map₂ (· - ·)
  mul := Option.map₂ (· * ·)
  div dividend divisor :=
    dividend.bind fun x => divisor.bind fun y => if y = 0 then none else some (x / y)
  one := some 1
  power base exponent := base.map (· ^ exponent)

namespace Exact

variable (x y : ℚ)

@[simp]
theorem some_add_some : (some x + some y : Exact) = some (x + y) := rfl

@[simp]
theorem some_sub_some : (some x - some y : Exact) = some (x - y) := rfl

@[simp]
theorem some_mul_some : (some x * some y : Exact) = some (x * y) := rfl

@[simp]
theorem some_div_some : (some x / some y : Exact) = if y = 0 then none else some (x / y) := rfl

@[simp]
theorem one_eq : (Arithmetic.one : Exact) = some 1 := rfl

end Exact

deriving instance DecidableEq for Scale

/-- The scale with its numbers replaced. -/
def Scale.map {α β : Type} (replace : α → β) (scale : Scale α) : Scale β :=
  { multiplier := replace scale.multiplier
    factor := replace scale.factor
    offset := replace scale.offset
    dimensions := scale.dimensions
    inverse := scale.inverse }

/-- A unit with its prefix, described in rationals. -/
structure ExactUnit where
  /-- The primary name first, then the aliases. -/
  names : List String
  /-- What the unit measures. -/
  quantity : Quantity
  /-- The numbers of the unit and its prefix. -/
  scale : Scale ℚ
  /-- The factor of the prefix is positive. -/
  multiplier_pos : 0 < scale.multiplier
  /-- The factor of the unit is positive. -/
  factor_pos : 0 < scale.factor
deriving DecidableEq

namespace ExactUnit

/-- The steps that convert a value exactly. -/
def steps (source target : ExactUnit) (value : ℚ) : Steps Exact :=
  conversionSteps (source.scale.map some) (target.scale.map some) (some value)

/-- Convert a value exactly. Units of different quantities do not convert, and a value stays as it
is when source and target are the same. -/
def convert (source target : ExactUnit) (value : ℚ) : Option ℚ :=
  if source.quantity = target.quantity then
    if source = target then some value else (source.steps target value).result
  else none

/-- The factor of the prefix for the dimensions of the unit. -/
def power (unit : ExactUnit) : ℚ := unit.scale.multiplier ^ unit.scale.dimensions

/-- The reciprocal, for an inverse unit; zero has none. -/
def turn (unit : ExactUnit) (x : ℚ) : Option ℚ :=
  if unit.scale.inverse then if x = 0 then none else some (1 / x) else some x

/-- A value in reference units. -/
def toReference (unit : ExactUnit) (value : ℚ) : Option ℚ :=
  (unit.turn (value * unit.power)).map fun x => x * unit.scale.factor + unit.scale.offset

/-- The value of a number of reference units. -/
def fromReference (unit : ExactUnit) (reference : ℚ) : Option ℚ :=
  (unit.turn ((reference - unit.scale.offset) / unit.scale.factor)).map (· / unit.power)

theorem power_ne_zero (unit : ExactUnit) : unit.power ≠ 0 := (pow_pos unit.multiplier_pos _).ne'

theorem factor_ne_zero (unit : ExactUnit) : unit.scale.factor ≠ 0 := unit.factor_pos.ne'

/-- Turning undoes itself. -/
theorem turn_of_turn {unit : ExactUnit} {x y : ℚ} (h : unit.turn x = some y) :
    unit.turn y = some x := by
  unfold turn at h ⊢
  cases hinverse : unit.scale.inverse with
  | false =>
    rw [hinverse] at h
    cases h
    rfl
  | true =>
    rw [hinverse] at h
    by_cases hzero : x = 0
    · simp [hzero] at h
    · simp only [hzero, if_true, if_false, Option.some.injEq] at h
      rw [← h]
      simp [hzero]

/-- The ways into reference units and back undo each other. -/
theorem toReference_eq_some_iff {unit : ExactUnit} {value reference : ℚ} :
    unit.toReference value = some reference ↔ unit.fromReference reference = some value := by
  have hpower := unit.power_ne_zero
  have hfactor := unit.factor_ne_zero
  unfold toReference fromReference
  rw [Option.map_eq_some_iff, Option.map_eq_some_iff]
  constructor
  · rintro ⟨x, hx, rfl⟩
    refine ⟨value * unit.power, ?_, mul_div_cancel_right₀ value hpower⟩
    rw [add_sub_cancel_right, mul_div_cancel_right₀ x hfactor]
    exact turn_of_turn hx
  · rintro ⟨y, hy, rfl⟩
    refine ⟨(reference - unit.scale.offset) / unit.scale.factor, ?_, ?_⟩
    · rw [div_mul_cancel₀ y hpower]
      exact turn_of_turn hy
    · rw [div_mul_cancel₀ _ hfactor, sub_add_cancel]

/-- Orienting a value is turning it. -/
theorem orient_eq (unit : ExactUnit) (x : Exact) :
    (unit.scale.map some).orient x = x.bind unit.turn := by
  cases x with
  | none =>
    unfold Scale.orient
    split <;> rfl
  | some x =>
    unfold Scale.orient turn
    by_cases hinverse : unit.scale.inverse = true
    · simp [Scale.map, hinverse]
    · simp [Scale.map, hinverse]

variable (source target : ExactUnit) (value : ℚ)

/-- The value as it is turned for the source. -/
theorem scaled_steps : (source.steps target value).scaled = some (value * source.power) := rfl

/-- The value as it is turned for the target. -/
theorem divided_steps : (source.steps target value).divided =
    (source.toReference value).map fun reference =>
      (reference - target.scale.offset) / target.scale.factor := by
  have hfactor := target.factor_ne_zero
  change ((source.scale.map some).orient (some (value * source.power)) * some source.scale.factor +
    (some source.scale.offset - some target.scale.offset)) / some target.scale.factor = _
  rw [orient_eq, Option.bind_some, toReference]
  cases source.turn (value * source.power) with
  | none => rfl
  | some x => simp [hfactor, add_sub_assoc]

/-- A conversion goes into reference units and from there into the target. -/
theorem result_steps :
    (source.steps target value).result = (source.toReference value).bind target.fromReference := by
  have hpower := target.power_ne_zero
  change (target.scale.map some).orient (source.steps target value).divided / some target.power = _
  rw [orient_eq, divided_steps]
  unfold fromReference
  cases source.toReference value with
  | none => rfl
  | some reference =>
    simp only [Option.map_some, Option.bind_some]
    cases target.turn ((reference - target.scale.offset) / target.scale.factor) with
    | none => rfl
    | some y => simp [hpower]

/-- A value has no reciprocal when it is zero and the unit is inverse. -/
theorem turn_eq_none_iff {unit : ExactUnit} {x : ℚ} :
    unit.turn x = none ↔ unit.scale.inverse = true ∧ x = 0 := by
  unfold turn
  split <;> simp [*]

/-- A conversion has no result exactly when a reciprocal of zero is taken. -/
theorem result_steps_eq_none_iff : (source.steps target value).result = none ↔
    (source.scale.inverse = true ∧ (source.steps target value).scaled = some 0) ∨
      (target.scale.inverse = true ∧ (source.steps target value).divided = some 0) := by
  rw [result_steps, scaled_steps, divided_steps, Option.some.injEq, ← turn_eq_none_iff]
  unfold toReference
  cases source.turn (value * source.power) with
  | none => simp
  | some x =>
    simp only [Option.map_some, Option.bind_some, Option.some.injEq, reduceCtorEq, false_or]
    rw [← turn_eq_none_iff, fromReference, Option.map_eq_none_iff]

variable {source target value} {middle : ExactUnit} {between result : ℚ}

/-- Steps with a result meet in a number of reference units. -/
theorem result_steps_eq_some_iff : (source.steps target value).result = some result ↔
    ∃ reference, source.toReference value = some reference ∧
      target.toReference result = some reference := by
  rw [result_steps, Option.bind_eq_some_iff]
  simp only [toReference_eq_some_iff]

/-- Steps from a unit to itself give the value back, where they have a result. -/
theorem eq_of_result_steps_self {unit : ExactUnit}
    (h : (unit.steps unit value).result = some result) : result = value := by
  obtain ⟨reference, hvalue, hresult⟩ := result_steps_eq_some_iff.mp h
  rw [toReference_eq_some_iff] at hvalue hresult
  rw [hvalue] at hresult
  exact (Option.some.inj hresult).symm

/-- The steps to a unit and on to a third one are those to the third one. -/
theorem result_steps_trans (first : (source.steps middle value).result = some between)
    (second : (middle.steps target between).result = some result) :
    (source.steps target value).result = some result := by
  obtain ⟨reference, hvalue, hbetween⟩ := result_steps_eq_some_iff.mp first
  obtain ⟨other, hother, hresult⟩ := result_steps_eq_some_iff.mp second
  obtain rfl : reference = other := Option.some.inj (hbetween.symm.trans hother)
  exact result_steps_eq_some_iff.mpr ⟨reference, hvalue, hresult⟩

/-- The steps back give the value back. -/
theorem result_steps_symm (h : (source.steps target value).result = some result) :
    (target.steps source result).result = some value := by
  obtain ⟨reference, hvalue, hresult⟩ := result_steps_eq_some_iff.mp h
  exact result_steps_eq_some_iff.mpr ⟨reference, hresult, hvalue⟩

/-- Units that a value converts between have one quantity, and are the same or have steps between
them. -/
theorem convert_eq_some_iff : source.convert target value = some result ↔
    source.quantity = target.quantity ∧
      ((source = target ∧ value = result) ∨
        (source ≠ target ∧ (source.steps target value).result = some result)) := by
  unfold convert
  by_cases hquantity : source.quantity = target.quantity <;>
    by_cases hsame : source = target <;> simp [hquantity, hsame]

end ExactUnit

/-- Conversions do not depend on the way: what is converted in two goes is converted in one with
the same result, and what is converted back is the value that it was. -/
structure PathIndependent {ι : Type} (convert : ι → ι → ℚ → Option ℚ) : Prop where
  /-- Two conversions behind each other are one. -/
  through : ∀ {source middle target value between result},
    convert source middle value = some between → convert middle target between = some result →
      convert source target value = some result
  /-- A conversion has one back. -/
  back : ∀ {source target value result}, convert source target value = some result →
    convert target source result = some value

/-- Exact conversions do not depend on the way. -/
theorem ExactUnit.pathIndependent_convert : PathIndependent ExactUnit.convert where
  through := by
    intro source middle target value between result first second
    rw [convert_eq_some_iff] at first second ⊢
    obtain ⟨hfirst, ⟨rfl, rfl⟩ | ⟨hneFirst, hstepsFirst⟩⟩ := first
    · exact second
    · obtain ⟨hsecond, ⟨rfl, rfl⟩ | ⟨hneSecond, hstepsSecond⟩⟩ := second
      · exact ⟨hfirst, .inr ⟨hneFirst, hstepsFirst⟩⟩
      · have hsteps := result_steps_trans hstepsFirst hstepsSecond
        refine ⟨hfirst.trans hsecond, ?_⟩
        by_cases hsame : source = target
        · subst hsame
          exact .inl ⟨rfl, (eq_of_result_steps_self hsteps).symm⟩
        · exact .inr ⟨hsame, hsteps⟩
  back := by
    intro source target value result h
    rw [convert_eq_some_iff] at h ⊢
    obtain ⟨hquantity, ⟨rfl, rfl⟩ | ⟨hne, hsteps⟩⟩ := h
    · exact ⟨rfl, .inl ⟨rfl, rfl⟩⟩
    · exact ⟨hquantity.symm, .inr ⟨hne.symm, result_steps_symm hsteps⟩⟩

/-- A resolved unit whose prefix has a positive factor. -/
abbrev RegularUnit :=
  { resolved : ResolvedUnit // resolved.multiplier.isFinite = true ∧ 0 < resolved.multiplier }

namespace RegularUnit

/-- The unit with its prefix, its numbers read as the rationals that they stand for. -/
def exact (regular : RegularUnit) : ExactUnit :=
  { names := regular.val.unit.names
    quantity := regular.val.unit.quantity
    scale := (Scale.ofResolved regular.val).map exactValue
    multiplier_pos := (zero_lt_iff regular.property.1).mp regular.property.2
    factor_pos := (zero_lt_iff regular.val.unit.factor_valid.1).mp regular.val.unit.factor_valid.2 }

/-- Source and target count as the same exactly when they are the same in rationals. -/
theorem isIdentity_iff (source target : RegularUnit) :
    Conversion.isIdentity source.val target.val = true ↔ source.exact = target.exact := by
  have hmultiplier := beq_iff source.property.1 target.property.1
  have hfactor := beq_iff source.val.unit.factor_valid.1 target.val.unit.factor_valid.1
  have hoffset := beq_iff source.val.unit.offset_finite target.val.unit.offset_finite
  unfold Conversion.isIdentity MeasureUnit.sameAs
  simp only [Bool.and_eq_true, hmultiplier, hfactor, hoffset, beq_iff_eq, exact, Scale.map,
    Scale.ofResolved, ExactUnit.mk.injEq, Scale.mk.injEq]
  tauto

/-- The steps that convert a value between resolved units, with all numbers read as rationals. -/
def steps (source target : RegularUnit) (value : ℚ) : Steps Exact :=
  conversionSteps ((Scale.ofResolved source.val).map fun x => some (exactValue x))
    ((Scale.ofResolved target.val).map fun x => some (exactValue x)) (some value)

/-- Convert a value between resolved units, with all numbers read as rationals. -/
def convert (source target : RegularUnit) (value : ℚ) : Option ℚ :=
  if Conversion.compatible source.val target.val then
    if Conversion.isIdentity source.val target.val then some value
    else (source.steps target value).result
  else none

/-- Resolved units convert like the units that they are in rationals. -/
theorem convert_eq (source target : RegularUnit) (value : ℚ) :
    source.convert target value = source.exact.convert target.exact value := by
  unfold convert ExactUnit.convert
  simp only [isIdentity_iff, Conversion.compatible, beq_iff_eq]
  rfl

end RegularUnit

/-- Conversions in exact arithmetic do not depend on the way, and the short way for a unit and
itself agrees with the steps. So it is for all rational units, and for all resolved units with their
numbers read as rationals. The steps have a result unless a reciprocal of zero is taken. -/
theorem exact_conversion :
    PathIndependent ExactUnit.convert ∧
    PathIndependent RegularUnit.convert ∧
    (∀ source target : RegularUnit, Conversion.isIdentity source.val target.val = true →
      ∀ value result, (source.steps target value).result = some result → result = value) ∧
    (∀ (unit : ExactUnit) (value result : ℚ),
      (unit.steps unit value).result = some result → result = value) ∧
    ∀ (source target : ExactUnit) (value : ℚ), (source.steps target value).result = none ↔
      (source.scale.inverse = true ∧ (source.steps target value).scaled = some 0) ∨
        (target.scale.inverse = true ∧ (source.steps target value).divided = some 0) := by
  have hexact := ExactUnit.pathIndependent_convert
  refine ⟨hexact, ?_, ?_, fun _ _ _ => ExactUnit.eq_of_result_steps_self,
    ExactUnit.result_steps_eq_none_iff⟩
  · constructor
    · intro source middle target value between result first second
      rw [RegularUnit.convert_eq] at first second ⊢
      exact hexact.through first second
    · intro source target value result h
      rw [RegularUnit.convert_eq] at h ⊢
      exact hexact.back h
  · intro source target hidentity value result h
    have hsteps : (source.exact.steps target.exact value).result = some result := h
    rw [(RegularUnit.isIdentity_iff source target).mp hidentity] at hsteps
    exact ExactUnit.eq_of_result_steps_self hsteps

/-- A fuel economy with the given numbers. -/
def fuelEconomy (name : String) (scale : Scale ℚ)
    (positive : 0 < scale.multiplier ∧ 0 < scale.factor) : ExactUnit :=
  ⟨[name], .fuelEconomy, scale, positive.1, positive.2⟩

/-- From millilitres per hundred kilometres, an inverse unit with a metric prefix, over kilometres
per litre to an inverse unit with a zero point of its own, and back. -/
theorem exact_conversion_fuel_economy :
    let consumption := fuelEconomy "L/100km" ⟨1 / 1000, 100, 0, 1, true⟩ (by decide +kernel)
    let distance := fuelEconomy "km/L" ⟨1, 1, 0, 1, false⟩ (by decide +kernel)
    let shifted := fuelEconomy "s" ⟨10, 3, 5, 2, true⟩ (by decide +kernel)
    consumption.convert distance 5000 = some 20 ∧ distance.convert shifted 20 = some (1 / 500) ∧
      consumption.convert shifted 5000 = some (1 / 500) ∧
      shifted.convert consumption (1 / 500) = some 5000 := by
  intro consumption distance shifted
  have first : consumption.convert distance 5000 = some 20 := by decide +kernel
  have second : distance.convert shifted 20 = some (1 / 500) := by decide +kernel
  have direct := exact_conversion.1.through first second
  exact ⟨first, second, direct, exact_conversion.1.back direct⟩

end UnitConversion

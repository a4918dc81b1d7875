import UnitConversion.Proofs.ConvertedValues
import UnitConversion.Proofs.SpecialNumbers

/-!
# Conversions with steps that are not finite

A conversion is refused when its result is not finite; its other steps are not looked at. A step that
is no number spoils all steps behind it. So does an infinite one, unless it is divided by: by the
reciprocal of an inverse unit, or as the prefix power of the target. Then a zero takes its place.
-/

namespace UnitConversion

open Numeric

namespace Steps

/-- The steps up to the reciprocal of the source. -/
def untilSource (steps : Steps Float) : List Float := [steps.sourcePower, steps.scaled]

/-- The steps behind the reciprocal of the source, up to the one of the target. -/
def untilTarget (steps : Steps Float) : List Float :=
  [steps.oriented, steps.counted, steps.shift, steps.shifted, steps.divided]

end Steps

namespace Scale

variable {scale source target : Scale Float} {value : Float}

section Orientation

/-- What is no number has no reciprocal that is one. -/
theorem isNaN_orient (h : value.isNaN = true) : (scale.orient value).isNaN = true := by
  unfold orient
  split
  · exact isNaN_div (.inr h)
  · exact h

/-- What is not finite stays so, unless it is an infinity whose reciprocal is taken. -/
theorem isFinite_orient (h : value.isFinite = false)
    (hkept : ¬(scale.inverse = true ∧ value.isInf = true)) :
    (scale.orient value).isFinite = false := by
  rcases isFinite_eq_false_iff.mp h with hinfinite | hnone
  · have hplain : scale.inverse ≠ true := fun hinverse => hkept ⟨hinverse, hinfinite⟩
    rw [orient, if_neg hplain]
    exact h
  · exact isFinite_eq_false_iff.mpr (.inr (isNaN_orient hnone))

/-- The reciprocal of an infinity is zero. -/
theorem isZero_orient (hinverse : scale.inverse = true) (h : value.isInf = true) :
    isZero (scale.orient value) = true := by
  rw [orient, if_pos hinverse]
  exact isZero_div_of_isInf (by decide +kernel) h

/-- The reciprocal of zero is infinite. -/
theorem isInf_orient (hinverse : scale.inverse = true) (h : isZero value = true) :
    (scale.orient value).isInf = true := by
  rw [orient, if_pos hinverse]
  exact isInf_one_div h

end Orientation

section Steps

/-- A step that is no number makes a result that is none. -/
theorem isNaN_result : ∀ step ∈ (conversionSteps source target value).toList,
    step.isNaN = true → (conversionSteps source target value).result.isNaN = true := by
  -- Each step is an operand of the next one, or of the one that both lead to.
  have hturned : ∀ {x y : Float}, x.isNaN = true → (x / y).isNaN = true :=
    fun h => isNaN_div (.inl h)
  have hshifted : ∀ {x : Float}, x.isNaN = true → (target.orient (x / target.factor) /
      target.prefixPower).isNaN = true := fun h => hturned (isNaN_orient (hturned h))
  have hcounted : ∀ {x : Float}, x.isNaN = true →
      (target.orient ((x + (source.offset - target.offset)) / target.factor) /
        target.prefixPower).isNaN = true := fun h => hshifted (isNaN_add (.inl h))
  have horiented : ∀ {x : Float}, x.isNaN = true →
      (target.orient ((x * source.factor + (source.offset - target.offset)) / target.factor) /
        target.prefixPower).isNaN = true := fun h => hcounted (isNaN_mul (.inl h))
  simp only [Steps.toList, List.forall_mem_cons, conversionSteps]
  refine ⟨fun h => ?_, fun h => ?_, horiented, hcounted, fun h => ?_, hshifted, fun h => ?_,
    hturned, fun h => ?_, fun h => h, by simp⟩
  · exact horiented (isNaN_orient (isNaN_mul (.inr h)))
  · exact horiented (isNaN_orient h)
  · exact hshifted (isNaN_add (.inr h))
  · exact hturned (isNaN_orient h)
  · exact isNaN_div (.inr h)

/-- Behind the reciprocal of the source, a step that is not finite makes one before the reciprocal
of the target that is not finite. -/
theorem isFinite_divided : ∀ step ∈ (conversionSteps source target value).untilTarget,
    step.isFinite = false → (conversionSteps source target value).divided.isFinite = false := by
  simp only [Steps.untilTarget, List.forall_mem_cons, conversionSteps]
  refine ⟨fun h => ?_, fun h => ?_, fun h => ?_, fun h => ?_, fun h => h, by simp⟩
  · exact isFinite_div (isFinite_add (.inl (isFinite_mul (.inl h))))
  · exact isFinite_div (isFinite_add (.inl h))
  · exact isFinite_div (isFinite_add (.inr h))
  · exact isFinite_div h

/-- Before the reciprocal of the source, a step that is not finite makes a value without the prefix
that is not finite. -/
theorem isFinite_scaled : ∀ step ∈ (conversionSteps source target value).untilSource,
    step.isFinite = false → (conversionSteps source target value).scaled.isFinite = false := by
  simp only [Steps.untilSource, List.forall_mem_cons, conversionSteps]
  exact ⟨fun h => isFinite_mul (.inr h), fun h => h, by simp⟩

end Steps

end Scale

namespace Conversion

variable {source target : ResolvedUnit} {value : Float}

/-- The steps of a conversion between resolved units. -/
def stepsOf (source target : ResolvedUnit) (value : Float) : Steps Float :=
  conversionSteps (.ofResolved source) (.ofResolved target) value

/-- The value is refused because it has no finite result. -/
def Refused (source target : ResolvedUnit) (value : Float) : Prop :=
  convert value source target = .error (noFiniteResult source target value)

/-- The reciprocal of an inverse source is taken of an infinity. -/
def SourceAbsorbs (source target : ResolvedUnit) (value : Float) : Prop :=
  source.unit.inverse = true ∧ (stepsOf source target value).scaled.isInf = true

/-- The reciprocal of an inverse target is taken of an infinity. -/
def TargetAbsorbs (source target : ResolvedUnit) (value : Float) : Prop :=
  target.unit.inverse = true ∧ (stepsOf source target value).divided.isInf = true

/-- What steps that are not finite, and reciprocals of zero, come to. -/
structure RefusedUnlessAbsorbed (source target : ResolvedUnit) (value : Float) : Prop where
  /-- When a step is no number the value is refused. -/
  notANumber : ∀ step ∈ (stepsOf source target value).toList, step.isNaN = true →
    Refused source target value
  /-- When a step before the reciprocal of the source is infinite the value is refused, unless an
  infinity is absorbed there or by the reciprocal of the target. -/
  untilSource : ∀ step ∈ (stepsOf source target value).untilSource, step.isInf = true →
    ¬SourceAbsorbs source target value → ¬TargetAbsorbs source target value →
      Refused source target value
  /-- When a step between the reciprocals is infinite the value is refused, unless an infinity is
  absorbed by the reciprocal of the target. -/
  untilTarget : ∀ step ∈ (stepsOf source target value).untilTarget, step.isInf = true →
    ¬TargetAbsorbs source target value → Refused source target value
  /-- When the value is infinite before it is divided by the prefix power of the target, or behind
  that, it is refused. -/
  behindTarget : (stepsOf source target value).turned.isInf = true ∨
    (stepsOf source target value).result.isInf = true → Refused source target value
  /-- The reciprocal of zero for an inverse source is infinite, and the value is refused unless an
  infinity is absorbed by the reciprocal of the target. -/
  sourceReciprocal : source.unit.inverse = true →
    isZero (stepsOf source target value).scaled = true →
      (stepsOf source target value).oriented.isInf = true ∧
        (¬TargetAbsorbs source target value → Refused source target value)
  /-- The reciprocal of zero for an inverse target is infinite, and the value is refused. -/
  targetReciprocal : target.unit.inverse = true →
    isZero (stepsOf source target value).divided = true →
      (stepsOf source target value).turned.isInf = true ∧ Refused source target value
  /-- The reciprocal of the source absorbs an infinity by making it zero. -/
  sourceAbsorbs : SourceAbsorbs source target value →
    isZero (stepsOf source target value).oriented = true
  /-- The reciprocal of the target absorbs an infinity by making it zero. That is the answer, unless
  the prefix power of the target is zero or no number. -/
  targetAbsorbs : TargetAbsorbs source target value →
    isZero (stepsOf source target value).turned = true ∧
      (isZero (stepsOf source target value).targetPower = false →
        (stepsOf source target value).targetPower.isNaN = false →
          ∃ result, convert value source target = .ok result ∧ isZero result = true)
  /-- An infinite prefix power of the target makes zero of a finite value, and that is the answer. -/
  powerAbsorbs : (stepsOf source target value).targetPower.isInf = true →
    (stepsOf source target value).turned.isFinite = true →
      ∃ result, convert value source target = .ok result ∧ isZero result = true

/-- A finite value that is converted between two units of one quantity is refused or converted by
its result. -/
theorem convert_eq_of_steps (finite : value.isFinite = true)
    (same : compatible source target = true) (different : isIdentity source target = false) :
    convert value source target =
      if (stepsOf source target value).result.isFinite = true then
        .ok (stepsOf source target value).result
      else .error (noFiniteResult source target value) := by
  have hconverted : converted source target value = (stepsOf source target value).result := by
    rw [converted, different]
    rfl
  unfold convert
  rw [convertValues_eq, List.find?_singleton, finite]
  simp only [Bool.not_true, Bool.false_eq_true, if_false, same, if_true, List.find?_singleton,
    hconverted]
  cases (stepsOf source target value).result.isFinite with
  | false => rfl
  | true => exact congrArg Except.ok hconverted

/-- Steps that are not finite make a finite value of two units of one quantity be refused, unless
they are absorbed. -/
theorem refused_unless_absorbed (finite : value.isFinite = true)
    (same : compatible source target = true) (different : isIdentity source target = false) :
    RefusedUnlessAbsorbed source target value := by
  have hconvert := convert_eq_of_steps finite same different
  have hrefused : (stepsOf source target value).result.isFinite = false →
      Refused source target value := by
    intro h
    rw [Refused, hconvert, h]
    rfl
  have hanswered : isZero (stepsOf source target value).result = true →
      ∃ result, convert value source target = .ok result ∧ isZero result = true := by
    intro h
    exact ⟨_, by rw [hconvert, if_pos (isFinite_of_isZero h)], h⟩
  have hturned : (stepsOf source target value).turned.isFinite = false →
      Refused source target value := fun h => hrefused (isFinite_div h)
  have hdivided : (stepsOf source target value).divided.isFinite = false →
      ¬TargetAbsorbs source target value → Refused source target value :=
    fun h hkept => hturned (Scale.isFinite_orient h hkept)
  have huntil : ∀ step ∈ (stepsOf source target value).untilTarget, step.isFinite = false →
      ¬TargetAbsorbs source target value → Refused source target value :=
    fun step hin h => hdivided (Scale.isFinite_divided step hin h)
  have horiented : (stepsOf source target value).oriented ∈
      (stepsOf source target value).untilTarget := List.mem_cons_self
  have hinfinite : ∀ {step : Float}, step.isInf = true → step.isFinite = false :=
    fun h => isFinite_eq_false_iff.mpr (.inl h)
  constructor
  case notANumber =>
    intro step hin h
    exact hrefused (isFinite_eq_false_iff.mpr (.inr (Scale.isNaN_result step hin h)))
  case untilSource =>
    intro step hin h hsource
    have hscaled := Scale.isFinite_scaled step hin (hinfinite h)
    exact huntil _ horiented (Scale.isFinite_orient hscaled hsource)
  case untilTarget => exact fun step hin h => huntil step hin (hinfinite h)
  case behindTarget => exact fun h => h.elim (hturned <| hinfinite ·) (hrefused <| hinfinite ·)
  case sourceReciprocal =>
    intro hinverse hzero
    have h := @Scale.isInf_orient (.ofResolved source) _ hinverse hzero
    exact ⟨h, huntil _ horiented (hinfinite h)⟩
  case targetReciprocal =>
    intro hinverse hzero
    have h := @Scale.isInf_orient (.ofResolved target) _ hinverse hzero
    exact ⟨h, hturned (hinfinite h)⟩
  case sourceAbsorbs =>
    rintro ⟨hinverse, h⟩
    exact @Scale.isZero_orient (.ofResolved source) _ hinverse h
  case targetAbsorbs =>
    rintro ⟨hinverse, h⟩
    have hzero := @Scale.isZero_orient (.ofResolved target) _ hinverse h
    exact ⟨hzero, fun hsome hnumber => hanswered (isZero_div hzero hsome hnumber)⟩
  case powerAbsorbs => exact fun hpower h => hanswered (isZero_div_of_isInf h hpower)

/-- Zero is finite. -/
theorem isFinite_no_offset : (0.0 : Float).isFinite = true := by decide +kernel

/-- A unit without a power takes the power one. -/
theorem single_dimension_valid : 1 ≤ 1 ∧ 1 ≤ maxDimensions := by decide

/-- The factor of a reference unit is in range. -/
theorem reference_factor_valid : (1.0 : Float).isFinite = true ∧ 0 < (1.0 : Float) := by
  decide +kernel

/-- A fuel economy with a factor and a metric prefix. -/
def fuelEconomyUnit (name : String) (factor : Float)
    (factor_valid : factor.isFinite = true ∧ 0 < factor) (inverse : Bool) (multiplier : Float)
    (prefixText : String) : ResolvedUnit :=
  { unit :=
      { names := [name], quantity := .fuelEconomy, factor, offset := 0.0, dimensions := 1, inverse,
        names_ne_nil := by simp
        names_nodup := by simp
        factor_valid
        offset_finite := isFinite_no_offset
        dimensions_valid := single_dimension_valid }
    multiplier, prefixText
    typedName := "" }

/-- Miles per gallon, with a metric prefix. -/
def milesPerGallon (multiplier : Float) (prefixText : String) : ResolvedUnit :=
  fuelEconomyUnit "miles-per-gallon" 235.214583333 (by decide +kernel) true multiplier prefixText

/-- Kilometres per litre. -/
def kilometresPerLitre : ResolvedUnit :=
  fuelEconomyUnit "kilometres-per-litre" 100.0 (by decide +kernel) true 1.0 ""

/-- Litres per hundred kilometres. -/
def litresPerHundredKilometres : ResolvedUnit :=
  fuelEconomyUnit "litres-per-100-kilometres" 1.0 reference_factor_valid false 1.0 ""

/-- No miles per gallon are no number of litres. -/
theorem zero_miles_per_gallon_refused :
    (0.0 : Float).isFinite = true ∧
      compatible (milesPerGallon 1.0 "") litresPerHundredKilometres = true ∧
      isIdentity (milesPerGallon 1.0 "") litresPerHundredKilometres = false ∧
      Refused (milesPerGallon 1.0 "") litresPerHundredKilometres 0.0 := by
  have same : compatible (milesPerGallon 1.0 "") litresPerHundredKilometres = true := by
    decide +kernel
  have different : isIdentity (milesPerGallon 1.0 "") litresPerHundredKilometres = false := by
    decide +kernel
  have hzero : isZero (stepsOf (milesPerGallon 1.0 "") litresPerHundredKilometres 0.0).scaled =
      true := by decide +kernel
  have hunless := refused_unless_absorbed isFinite_no_offset same different
  refine ⟨isFinite_no_offset, same, different, (hunless.sourceReciprocal rfl hzero).2 ?_⟩
  rintro ⟨hinverse, -⟩
  contradiction

/-- The value is finite, the units are two of one quantity, a step is infinite, and the answer is
zero. -/
structure AnswersZero (source target : ResolvedUnit) (value : Float) : Prop where
  /-- The value is finite. -/
  finite : value.isFinite = true
  /-- The units are of one quantity. -/
  same : compatible source target = true
  /-- They are two units. -/
  different : isIdentity source target = false
  /-- A step is infinite. -/
  infinite : (stepsOf source target value).toList.any (·.isInf) = true
  /-- The answer is zero. -/
  answer : ∃ result, convert value source target = .ok result ∧ isZero result = true

/-- Litres per hundred kilometres, with a power of the metric prefix that is out of range. -/
def outOfRangeLitres : ResolvedUnit :=
  { litresPerHundredKilometres with
    unit :=
      { litresPerHundredKilometres.unit with
        dimensions := 14
        dimensions_valid := by decide }
    multiplier := 1e24
    prefixText := "Y" }

/-- Infinite steps are answered with zero. No miles per gallon are no kilometres per litre, by two
reciprocals of which the first is that of zero. A number of miles per gallon that its prefix makes
infinite has a reciprocal of zero, and so is no litres at all. And a number is no litres at all when
the power of their prefix is infinite. -/
theorem infinite_steps_answered :
    (AnswersZero (milesPerGallon 1.0 "") kilometresPerLitre 0.0 ∧
      isZero (stepsOf (milesPerGallon 1.0 "") kilometresPerLitre 0.0).scaled = true) ∧
    AnswersZero (milesPerGallon 1e24 "Y") litresPerHundredKilometres 1e300 ∧
    AnswersZero litresPerHundredKilometres outOfRangeLitres 1.0 := by
  have hanswer : ∀ {source target : ResolvedUnit} {value : Float}, value.isFinite = true →
      compatible source target = true → (converted source target value).isFinite = true →
        isZero (converted source target value) = true →
          ∃ result, convert value source target = .ok result ∧ isZero result = true :=
    fun hvalue hsame hresult hzero =>
      ⟨_, convert_eq_ok_iff.mpr ⟨hvalue, hsame, hresult, rfl⟩, hzero⟩
  refine ⟨⟨⟨?_, ?_, ?_, ?_, hanswer ?_ ?_ ?_ ?_⟩, ?_⟩, ⟨?_, ?_, ?_, ?_, hanswer ?_ ?_ ?_ ?_⟩,
    ⟨?_, ?_, ?_, ?_, hanswer ?_ ?_ ?_ ?_⟩⟩ <;> decide +kernel

end Conversion

end UnitConversion

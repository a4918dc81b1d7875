import Mathlib.Algebra.Order.Field.Rat
import Mathlib.Algebra.Order.Field.Power
import Mathlib.Tactic.Positivity
import Mathlib.Tactic.Ring
import UnitConversion.Numeric.Binary64

/-!
# Floating-point numbers as rationals

A finite floating-point number stands for one rational. Two of them compare as equal exactly when
they stand for the same rational, and a finite number is positive exactly when its rational is. The
parts of a number, read off its bits, are those that the arithmetic of the language works on.
-/

namespace UnitConversion.Numeric

open Float.Model Float.Model.UnpackedFloat

/-- The rational that a sign, a mantissa and an exponent of two make. -/
def Dyadic.value (number : Dyadic) : ℚ :=
  (if number.negative then -1 else 1) * (number.mantissa * 2 ^ number.exponent)

/-- The rational that a finite number stands for; zero for every other. -/
def exactValue (x : Float) : ℚ := ((dyadic? x).map Dyadic.value).getD 0

/-- The sign is a minus. -/
def isNegativeSign : Sign → Bool
  | .negative => true
  | .positive => false

/-- The parts of an unpacked number. -/
def ofUnpacked? : UnpackedFloat → Option Dyadic
  | .zero sign => some ⟨isNegativeSign sign, 0, -1074⟩
  | .finite sign mantissa exponent _ => some ⟨isNegativeSign sign, mantissa, exponent⟩
  | _ => none

theorem toNat_unpackMantissa (bits : BitVec 64) :
    (@unpackMantissa Format.binary64 bits).toNat = bits.toNat % Nat.pow 2 52 := by
  simp [unpackMantissa, BitVec.extractLsb_toNat]

theorem toNat_unpackExponent (bits : BitVec 64) :
    (@unpackExponent Format.binary64 bits).toNat =
      bits.toNat / Nat.pow 2 52 % Nat.pow 2 11 := by
  simp [unpackExponent, Nat.shiftRight_eq_div_pow]

/-- The sign is the highest bit. -/
theorem ofBitVec_unpackSign (bits : BitVec 64) :
    isNegativeSign (Sign.ofBitVec (@unpackSign Format.binary64 bits)) =
      decide (Nat.pow 2 63 ≤ bits.toNat) := by
  have hlt := bits.isLt
  have hbit : (@unpackSign Format.binary64 bits).toNat = bits.toNat / Nat.pow 2 63 := by
    have hextract : (@unpackSign Format.binary64 bits).toNat = (bits.extractLsb 63 63).toNat :=
      BitVec.toNat_cast _ _
    rw [hextract, BitVec.extractLsb_toNat, Nat.shiftRight_eq_div_pow]
    change bits.toNat / 2 ^ 63 % 2 = bits.toNat / 2 ^ 63
    omega
  have hzero : @unpackSign Format.binary64 bits = 0#1 ↔ ¬Nat.pow 2 63 ≤ bits.toNat := by
    rw [← BitVec.toNat_inj, hbit]
    change bits.toNat / 2 ^ 63 = 0 ↔ ¬2 ^ 63 ≤ bits.toNat
    omega
  unfold Sign.ofBitVec
  by_cases hsign : Nat.pow 2 63 ≤ bits.toNat
  · rw [if_neg (by simpa [hzero] using hsign), decide_eq_true hsign]
    rfl
  · rw [if_pos (hzero.mpr hsign), decide_eq_false hsign]
    rfl

/-- With the implicit bit in front the mantissa has 53 bits. -/
theorem toNat_implicit_unpackMantissa (bits : BitVec 64) :
    (1#1 ++ @unpackMantissa Format.binary64 bits).toNat =
      Nat.pow 2 52 + bits.toNat % Nat.pow 2 52 := by
  have hlt : bits.toNat % Nat.pow 2 52 < 2 ^ 52 := Nat.mod_lt _ (by decide)
  rw [BitVec.toNat_append, toNat_unpackMantissa, ← Nat.shiftLeft_add_eq_or_of_lt hlt]
  rfl

/-- The parts that are read off the bits are those of the unpacked number. -/
theorem dyadic?_eq (x : Float) : dyadic? x = ofUnpacked? x.toModel.unpack := by
  unfold dyadic? Float.toBits Float.Model.unpack UnpackedFloat.unpack
  have hbits : x.toModel.toBits.toNat = x.toModel.toBits.toBitVec.toNat := rfl
  generalize x.toModel.toBits.toBitVec = bits at hbits
  have hinfinite : @unpackExponent Format.binary64 bits = -1#_ ↔
      bits.toNat / Nat.pow 2 52 % Nat.pow 2 11 = 2047 := by
    rw [← BitVec.toNat_inj, toNat_unpackExponent]
    rfl
  have hsmall : @unpackExponent Format.binary64 bits = 0#_ ↔
      bits.toNat / Nat.pow 2 52 % Nat.pow 2 11 = 0 := by
    rw [← BitVec.toNat_inj, toNat_unpackExponent]
    rfl
  have hzero : @unpackMantissa Format.binary64 bits = 0#_ ↔
      bits.toNat % Nat.pow 2 52 = 0 := by
    rw [← BitVec.toNat_inj, toNat_unpackMantissa]
    rfl
  dsimp only
  rw [hbits]
  by_cases hfield : bits.toNat / Nat.pow 2 52 % Nat.pow 2 11 = 2047
  · rw [if_pos hfield, if_pos (hinfinite.mpr hfield)]
    split <;> rfl
  · rw [if_neg hfield, if_neg (hinfinite.not.mpr hfield)]
    by_cases hleast : bits.toNat / Nat.pow 2 52 % Nat.pow 2 11 = 0
    · rw [if_pos hleast, if_pos (hsmall.mpr hleast)]
      by_cases hfraction : bits.toNat % Nat.pow 2 52 = 0
      · rw [dif_pos (hzero.mpr hfraction), hfraction]
        dsimp only [ofUnpacked?]
        rw [ofBitVec_unpackSign]
      · rw [dif_neg (hzero.not.mpr hfraction)]
        dsimp only [ofUnpacked?]
        simp only [toNat_unpackMantissa, toNat_unpackExponent, hleast, ofBitVec_unpackSign]
        rfl
    · rw [if_neg hleast, if_neg (hsmall.not.mpr hleast)]
      dsimp only [ofUnpacked?]
      simp only [toNat_unpackExponent, ofBitVec_unpackSign, Option.some.injEq, Dyadic.mk.injEq,
        true_and]
      exact ⟨(toNat_implicit_unpackMantissa bits).symm, rfl⟩

/-- The mantissa of a number has 53 bits at most, and all of them unless its exponent is the
least. -/
structure Dyadic.Canonical (number : Dyadic) : Prop where
  /-- There are 53 bits at most. -/
  bits : number.mantissa < 2 ^ 53
  /-- The exponent is not below the least. -/
  least : -1074 ≤ number.exponent
  /-- The highest bit is set, or the exponent cannot be lowered. -/
  normal : 2 ^ 52 ≤ number.mantissa ∨ number.exponent = -1074

/-- The parts of a number are canonical. -/
theorem canonical_of_dyadic? {x : Float} {number : Dyadic} (h : dyadic? x = some number) :
    number.Canonical := by
  have hfraction : x.toBits.toNat % Nat.pow 2 52 < 2 ^ 52 := Nat.mod_lt _ (by decide)
  have hpow : Nat.pow 2 52 = 2 ^ 52 := rfl
  unfold dyadic? at h
  dsimp only at h
  split at h
  · contradiction
  · split at h
    · cases h
      exact ⟨by dsimp only; omega, le_refl _, .inr rfl⟩
    · cases h
      exact ⟨by dsimp only; omega, by dsimp only; omega, .inl (by dsimp only; omega)⟩

/-- The larger of two exponents comes with the same mantissa, and so is no larger. -/
theorem Dyadic.Canonical.parts_eq_of_le {left right : Dyadic} (hleft : left.Canonical)
    (hright : right.Canonical) (hexponent : left.exponent ≤ right.exponent)
    (h : (left.mantissa : ℚ) * 2 ^ left.exponent = right.mantissa * 2 ^ right.exponent) :
    left.mantissa = right.mantissa ∧ left.exponent = right.exponent := by
  obtain ⟨gap, hgap⟩ := Int.eq_ofNat_of_zero_le (sub_nonneg.mpr hexponent)
  have hsum : right.exponent = left.exponent + gap := by omega
  have hscaled : left.mantissa = right.mantissa * 2 ^ gap := by
    have htwo : (2 : ℚ) ^ left.exponent ≠ 0 := by positivity
    rw [hsum, zpow_add₀ two_ne_zero, zpow_natCast, mul_left_comm, ← mul_assoc] at h
    have hrational : (left.mantissa : ℚ) = right.mantissa * 2 ^ gap :=
      mul_left_cancel₀ htwo (by rw [mul_comm, h, mul_assoc])
    exact_mod_cast hrational
  -- An exponent above the least comes with a full mantissa, which has no room for another two.
  have hnone : gap = 0 := by
    by_contra hsome
    have hfull : 2 ^ 52 ≤ right.mantissa := by
      rcases hright.normal with hfull | hleast
      · exact hfull
      · have := hleft.least
        omega
    have htwo : 2 ≤ 2 ^ gap := Nat.le_self_pow hsome 2
    have hproduct : right.mantissa * 2 ≤ right.mantissa * 2 ^ gap := Nat.mul_le_mul_left _ htwo
    have hbits := hleft.bits
    omega
  rw [hnone] at hscaled hsum
  exact ⟨by simpa using hscaled, by simpa using hsum.symm⟩

/-- Canonical numbers stand for the same rational when their parts are the same. Zero may have
either sign. -/
theorem Dyadic.Canonical.value_eq_iff {left right : Dyadic} (hleft : left.Canonical)
    (hright : right.Canonical) :
    left.value = right.value ↔ left.mantissa = right.mantissa ∧
      left.exponent = right.exponent ∧ (left.negative = right.negative ∨ left.mantissa = 0) := by
  have hparts (h : (left.mantissa : ℚ) * 2 ^ left.exponent =
      right.mantissa * 2 ^ right.exponent) :
      left.mantissa = right.mantissa ∧ left.exponent = right.exponent := by
    rcases le_total left.exponent right.exponent with hle | hle
    · exact hleft.parts_eq_of_le hright hle h
    · exact (hright.parts_eq_of_le hleft hle h.symm).imp Eq.symm Eq.symm
  have hpower (exponent : ℤ) : (2 : ℚ) ^ exponent ≠ 0 := by positivity
  have hle (number : Dyadic) : (0 : ℚ) ≤ number.mantissa * 2 ^ number.exponent := by positivity
  constructor
  · intro h
    by_cases hsign : left.negative = right.negative
    · have hscaled : (left.mantissa : ℚ) * 2 ^ left.exponent =
          right.mantissa * 2 ^ right.exponent := by
        rw [Dyadic.value, Dyadic.value, hsign] at h
        exact mul_left_cancel₀ (by split <;> simp) h
      exact ⟨(hparts hscaled).1, (hparts hscaled).2, .inl hsign⟩
    · -- Of two opposite numbers that are the same both are zero.
      have hopposite : (left.mantissa : ℚ) * 2 ^ left.exponent =
          -(right.mantissa * 2 ^ right.exponent) := by
        unfold Dyadic.value at h
        cases hl : left.negative <;> cases hr : right.negative <;> simp_all
        rw [← h, neg_neg]
      have hzero : (left.mantissa : ℚ) * 2 ^ left.exponent = 0 :=
        le_antisymm (by rw [hopposite]; exact neg_nonpos.mpr (hle right)) (hle left)
      have hscaled : (left.mantissa : ℚ) * 2 ^ left.exponent =
          right.mantissa * 2 ^ right.exponent := by
        rw [hopposite, neg_eq_zero] at hzero
        rw [hopposite, hzero, neg_zero]
      have hmantissa : left.mantissa = 0 := by simpa [hpower] using hzero
      exact ⟨(hparts hscaled).1, (hparts hscaled).2, .inr hmantissa⟩
  · rintro ⟨hmantissa, hexponent, hsign | hzero⟩
    · rw [Dyadic.value, Dyadic.value, hmantissa, hexponent, hsign]
    · rw [Dyadic.value, Dyadic.value, ← hmantissa, hzero]
      simp

/-- A number is finite when it has parts. -/
theorem isFinite_iff {x : Float} : x.isFinite = true ↔ ∃ number, dyadic? x = some number := by
  rw [dyadic?_eq]
  change x.toModel.unpack.isFinite = true ↔ _
  cases x.toModel.unpack <;> dsimp only [UnpackedFloat.isFinite, ofUnpacked?] <;> simp

/-- Unpacked numbers compare as equal when their parts are the same. Zero may have either sign. -/
theorem beq_unpacked_iff {left right : UnpackedFloat} {first second : Dyadic}
    (hfirst : ofUnpacked? left = some first) (hsecond : ofUnpacked? right = some second) :
    left.beq right = true ↔ first.mantissa = second.mantissa ∧
      first.exponent = second.exponent ∧
      (first.negative = second.negative ∨ first.mantissa = 0) := by
  unfold UnpackedFloat.beq
  cases left with
  | infinity sign => contradiction
  | notANumber => contradiction
  | zero sign =>
    cases hfirst
    cases right with
    | infinity other => contradiction
    | notANumber => contradiction
    | zero other =>
      cases hsecond
      dsimp only [UnpackedFloat.compare]
      simp
    | finite other mantissa exponent mantissa_pos =>
      cases hsecond
      have hmantissa : 0 ≠ mantissa := by omega
      cases other <;> dsimp only [UnpackedFloat.compare] <;> simp [hmantissa]
  | finite sign mantissa exponent mantissa_pos =>
    cases hfirst
    have hmantissa : mantissa ≠ 0 := by omega
    cases right with
    | infinity other => contradiction
    | notANumber => contradiction
    | zero other =>
      cases hsecond
      cases sign <;> dsimp only [UnpackedFloat.compare] <;> simp [hmantissa]
    | finite other mantissa' exponent' mantissa_pos' =>
      cases hsecond
      cases sign <;> cases other <;> dsimp only [UnpackedFloat.compare, isNegativeSign] <;>
        simp [hmantissa, Ordering.then_eq_eq, and_comm]

/-- Finite numbers compare as equal when they stand for the same rational. -/
theorem beq_iff {x y : Float} (hx : x.isFinite = true) (hy : y.isFinite = true) :
    (x == y) = true ↔ exactValue x = exactValue y := by
  obtain ⟨left, hleft⟩ := isFinite_iff.mp hx
  obtain ⟨right, hright⟩ := isFinite_iff.mp hy
  have hcanonical := (canonical_of_dyadic? hleft).value_eq_iff (canonical_of_dyadic? hright)
  rw [exactValue, exactValue, hleft, hright]
  change x.toModel.unpack.beq y.toModel.unpack = true ↔ left.value = right.value
  rw [hcanonical]
  exact beq_unpacked_iff (by rw [← dyadic?_eq, hleft]) (by rw [← dyadic?_eq, hright])

/-- How a finite number compares with zero, told by its rational. -/
theorem compare_zero {x : Float} (finite : x.isFinite = true) :
    x.toModel.unpack.compare (.zero .positive) = some (compare (exactValue x) 0) ∧
      UnpackedFloat.compare (.zero .positive) x.toModel.unpack =
        some (compare 0 (exactValue x)) := by
  have hvalue : exactValue x = ((ofUnpacked? x.toModel.unpack).map Dyadic.value).getD 0 := by
    rw [exactValue, dyadic?_eq]
  change x.toModel.unpack.isFinite = true at finite
  rw [hvalue]
  cases hx : x.toModel.unpack with
  | infinity sign =>
    rw [hx] at finite
    contradiction
  | notANumber =>
    rw [hx] at finite
    contradiction
  | zero sign =>
    dsimp only [UnpackedFloat.compare, ofUnpacked?]
    simp [Dyadic.value]
  | finite sign mantissa exponent mantissa_pos =>
    have hscaled : (0 : ℚ) < mantissa * 2 ^ exponent := by positivity
    cases sign with
    | positive =>
      have hgreater := compare_gt_iff_gt.mpr hscaled
      have hless := compare_lt_iff_lt.mpr hscaled
      dsimp only [UnpackedFloat.compare, ofUnpacked?, isNegativeSign]
      simp [Dyadic.value, hgreater, hless]
    | negative =>
      have hless := compare_lt_iff_lt.mpr (neg_neg_of_pos hscaled)
      have hgreater := compare_gt_iff_gt.mpr (neg_neg_of_pos hscaled)
      dsimp only [UnpackedFloat.compare, ofUnpacked?, isNegativeSign]
      simp [Dyadic.value, hgreater, hless]

/-- Zero has the positive sign. -/
theorem unpack_zero : (0 : Float).toModel.unpack = .zero .positive := by rfl

/-- A finite number is greater than zero when its rational is. -/
theorem zero_lt_iff {x : Float} (finite : x.isFinite = true) : 0 < x ↔ 0 < exactValue x := by
  change decide (UnpackedFloat.lt (0 : Float).toModel.unpack x.toModel.unpack = true) = true ↔ _
  rw [decide_eq_true_eq, unpack_zero, UnpackedFloat.lt, (compare_zero finite).2,
    ← compare_lt_iff_lt (α := ℚ)]
  simp

/-- A finite number is at most zero when its rational is. -/
theorem le_zero_iff {x : Float} (finite : x.isFinite = true) : x ≤ 0 ↔ exactValue x ≤ 0 := by
  change decide (UnpackedFloat.le x.toModel.unpack (0 : Float).toModel.unpack = true) = true ↔ _
  rw [decide_eq_true_eq, unpack_zero, UnpackedFloat.le, (compare_zero finite).1,
    ← compare_le_iff_le (α := ℚ)]
  simp [Ordering.isLE_iff_ne_gt]

/-- A finite number is at most zero, or greater than zero. -/
theorem not_le_zero_iff {x : Float} (finite : x.isFinite = true) : ¬x ≤ 0 ↔ 0 < x := by
  rw [le_zero_iff finite, zero_lt_iff finite, not_le]

end UnitConversion.Numeric

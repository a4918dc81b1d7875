import Mathlib.Tactic.Linarith
import Mathlib.Tactic.NormNum
import UnitConversion.Numeric.Literal
import UnitConversion.Proofs.ExactNumbers
import UnitConversion.Proofs.SpecialNumbers

/-!
# Decimals that are rounded to finite numbers

A decimal number is rounded to a finite one exactly below a bound, the middle between the largest
finite number and the next power of two. The bound itself is rounded up, to infinity, because the
last mantissa bit of the largest finite number is odd.
-/

namespace UnitConversion.Numeric

open Float.Model Float.Model.UnpackedFloat

section Bits

/-- A number is finite unless its exponent field is full. -/
theorem isFinite_unpack_iff (bits : BitVec 64) :
    (UnpackedFloat.unpack Format.binary64 bits).isFinite = true ↔
      @unpackExponent Format.binary64 bits ≠ -1#_ := by
  unfold UnpackedFloat.unpack
  dsimp only
  by_cases hfull : @unpackExponent Format.binary64 bits = -1#_
  · rw [if_pos hfull]
    refine iff_of_false ?_ (not_not.mpr hfull)
    split
    · exact Bool.false_ne_true
    · exact Bool.false_ne_true
  · rw [if_neg hfull]
    refine iff_of_true ?_ hfull
    by_cases hleast : @unpackExponent Format.binary64 bits = 0#_
    · rw [if_pos hleast]
      by_cases hzero : @unpackMantissa Format.binary64 bits = 0#_
      · rw [dif_pos hzero]
        rfl
      · rw [dif_neg hzero]
        rfl
    · rw [if_neg hleast]
      rfl

/-- The exponent of a number that is unpacked is not above the largest one. -/
theorem exponent_lt_of_unpack {bits : BitVec 64} {sign : Sign} {mantissa : Nat} {exponent : Int}
    {mantissa_pos : 0 < mantissa} (h : UnpackedFloat.unpack Format.binary64 bits =
      .finite sign mantissa exponent mantissa_pos) : exponent < 972 := by
  have hbias : Format.binary64.exponentBias = 1023 := rfl
  have hfield : (@unpackExponent Format.binary64 bits).toNat < 2048 := BitVec.isLt _
  have hfull : @unpackExponent Format.binary64 bits ≠ -1#_ := by
    rw [← isFinite_unpack_iff, h]
    rfl
  have hroom : (@unpackExponent Format.binary64 bits).toNat ≠ 2047 :=
    fun heq => hfull (BitVec.toNat_inj.mp heq)
  unfold UnpackedFloat.unpack at h
  dsimp only at h
  rw [if_neg hfull] at h
  by_cases hleast : @unpackExponent Format.binary64 bits = 0#_
  · have hsmall : (@unpackExponent Format.binary64 bits).toNat = 0 := congrArg BitVec.toNat hleast
    rw [if_pos hleast] at h
    by_cases hzero : @unpackMantissa Format.binary64 bits = 0#_
    · rw [dif_pos hzero] at h
      contradiction
    · rw [dif_neg hzero] at h
      injection h
      omega
  · rw [if_neg hleast] at h
    injection h
    omega

/-- The exponent field of a number that is packed is not full when there is room for the
exponent. -/
theorem unpackExponent_pack_ne {sign : Sign} {mantissa : Nat} {exponent : Int}
    (mantissa_pos : 0 < mantissa) (hroom : exponent < 972) :
    @unpackExponent Format.binary64 (UnpackedFloat.pack Format.binary64
      (.finite sign mantissa exponent mantissa_pos)) ≠ -1#_ := by
  have hpack : UnpackedFloat.pack Format.binary64 (.finite sign mantissa exponent mantissa_pos) =
      if 2 ^ 11 ≤ (exponent + 1023 + 52).toNat + 1 then packedInfinity Format.binary64 sign
      else if mantissa.log2 + 1 = 53 then
        packComponents Format.binary64 sign (BitVec.ofNat 11 (exponent + 1023 + 52).toNat)
          (BitVec.ofNat 52 mantissa)
      else packComponents Format.binary64 sign 0#11 (BitVec.ofNat 52 mantissa) := rfl
  rw [hpack, if_neg (by omega)]
  split
  · rw [unpackExponent_packComponents, ne_eq, ← BitVec.toNat_inj, BitVec.toNat_ofNat]
    change ¬(exponent + 1023 + 52).toNat % 2048 = 2047
    omega
  · rw [unpackExponent_packComponents]
    decide

/-- A number that is made of bits is finite unless its exponent field is full. -/
theorem isFinite_ofBits_iff (bits : UInt64) : (Float.ofBits bits).isFinite = true ↔
    bits.toNat / Nat.pow 2 52 % Nat.pow 2 11 ≠ 2047 := by
  have hfield : @unpackExponent Format.binary64 bits.toBitVec ≠ -1#_ ↔
      bits.toNat / Nat.pow 2 52 % Nat.pow 2 11 ≠ 2047 := by
    rw [ne_eq, ← BitVec.toNat_inj, toNat_unpackExponent]
    rfl
  rw [← hfield, ← isFinite_unpack_iff]
  constructor
  · intro h
    by_contra hother
    have hnot := @isFinite_of_pack (Float.ofBits bits) _ rfl (Bool.eq_false_iff.mpr hother)
    rw [hnot] at h
    contradiction
  · intro h
    change (UnpackedFloat.unpack Format.binary64 (UnpackedFloat.pack Format.binary64
      (UnpackedFloat.unpack Format.binary64 bits.toBitVec))).isFinite = true
    rw [isFinite_unpack_iff]
    cases hunpack : UnpackedFloat.unpack Format.binary64 bits.toBitVec with
    | infinity sign =>
      rw [hunpack] at h
      contradiction
    | notANumber =>
      rw [hunpack] at h
      contradiction
    | zero sign =>
      change @unpackExponent Format.binary64 (packComponents Format.binary64 sign 0 0) ≠ -1#_
      rw [unpackExponent_packComponents]
      decide
    | finite sign mantissa exponent mantissa_pos =>
      exact unpackExponent_pack_ne mantissa_pos (exponent_lt_of_unpack hunpack)

/-- A number of a sign and the bits of its magnitude is finite below the bits of infinity. -/
theorem isFinite_ofMagnitude_iff {negative : Bool} {bits : Nat} (h : bits ≤ infinityBits) :
    (ofMagnitude negative bits).isFinite = true ↔ bits < infinityBits := by
  have hpowers : Nat.pow 2 63 = 2 ^ 63 ∧ Nat.pow 2 52 = 2 ^ 52 ∧ Nat.pow 2 11 = 2 ^ 11 :=
    ⟨rfl, rfl, rfl⟩
  obtain ⟨hsign, hmantissa, hfield⟩ := hpowers
  have hwhole : (UInt64.ofNat (if negative then Nat.pow 2 63 + bits else bits)).toNat =
      if negative then 2 ^ 63 + bits else bits := by
    have hsize : UInt64.size = 2 ^ 64 := rfl
    rw [UInt64.toNat_ofNat_of_lt', hsign]
    unfold infinityBits at h
    rw [hsize]
    split <;> omega
  unfold ofMagnitude infinityBits at *
  rw [isFinite_ofBits_iff, hwhole, hmantissa, hfield]
  rw [hmantissa] at h
  cases negative with
  | true =>
    rw [if_pos rfl]
    omega
  | false =>
    rw [if_neg Bool.false_ne_true]
    omega

end Bits

section Rounding

/-- Above an odd number half a unit is rounded up. -/
theorem roundQuotient_of_odd {numerator denominator : Nat}
    (hodd : numerator / denominator % 2 = 1) : roundQuotient numerator denominator =
      if denominator ≤ 2 * (numerator % denominator) then numerator / denominator + 1
      else numerator / denominator := by
  unfold roundQuotient
  dsimp only
  rw [hodd]
  by_cases hhalf : 2 * (numerator % denominator) = denominator
  · rw [if_pos hhalf, if_pos hhalf.ge]
    rfl
  · rw [if_neg hhalf]
    by_cases hup : denominator < 2 * (numerator % denominator)
    · rw [if_pos hup.le, if_pos (decide_eq_true hup)]
    · have hdown : ¬denominator ≤ 2 * (numerator % denominator) := by omega
      rw [if_neg hdown, decide_eq_false hup, if_neg Bool.false_ne_true]

/-- A fraction is rounded to an even number or more exactly from half a unit below it on. -/
theorem le_roundQuotient_iff {numerator denominator even : Nat} (hdenominator : 0 < denominator)
    (hsome : 0 < even) (heven : even % 2 = 0) :
    even ≤ roundQuotient numerator denominator ↔
      (2 * even - 1) * denominator ≤ 2 * numerator := by
  have hdivision := Nat.div_add_mod numerator denominator
  have hrest := Nat.mod_lt numerator hdenominator
  have hround := roundQuotient_eq_or_eq numerator denominator
  rcases Nat.lt_trichotomy even (numerator / denominator + 1) with habove | heq | hbelow
  · have hscaled : (2 * even - 1) * denominator ≤
        2 * (denominator * (numerator / denominator)) := by
      calc (2 * even - 1) * denominator
          ≤ 2 * (numerator / denominator) * denominator := Nat.mul_le_mul_right _ (by omega)
        _ = 2 * (denominator * (numerator / denominator)) := by ring
    exact iff_of_true (by omega) (by omega)
  · have hscaled : (2 * even - 1) * denominator =
        2 * (denominator * (numerator / denominator)) + denominator := by
      have hdouble : 2 * even - 1 = 2 * (numerator / denominator) + 1 := by omega
      rw [hdouble]
      ring
    rw [hscaled, roundQuotient_of_odd (by omega)]
    split <;> omega
  · have hscaled : 2 * (denominator * (numerator / denominator)) + 2 * denominator ≤
        (2 * even - 1) * denominator := by
      calc 2 * (denominator * (numerator / denominator)) + 2 * denominator
          = (2 * (numerator / denominator) + 2) * denominator := by ring
        _ ≤ (2 * even - 1) * denominator := Nat.mul_le_mul_right _ (by omega)
    exact iff_of_false (by omega) (by omega)

end Rounding

section LastBit

variable {numerator denominator : Nat}

/-- The exponent of the last mantissa bit suits the number: 53 bits are enough, and all of them are
needed unless the exponent is the least. -/
structure SuitsLastBit (number : ℚ) (exponent : Int) : Prop where
  /-- The exponent is not below the least. -/
  least : -1074 ≤ exponent
  /-- The number has 53 bits at most before the point. -/
  fits : number < 2 ^ 53 * 2 ^ exponent
  /-- It has all of them, or the exponent cannot be lowered. -/
  normal : exponent = -1074 ∨ 2 ^ 52 * 2 ^ exponent ≤ number

/-- A power is a quotient of powers with natural exponents. -/
theorem zpow_eq_div {base : ℚ} (hbase : base ≠ 0) (exponent : Int) :
    base ^ exponent = base ^ exponent.toNat / base ^ (-exponent).toNat := by
  rw [← zpow_natCast, ← zpow_natCast, ← zpow_sub₀ hbase]
  congr 1
  omega

/-- Powers of two are multiplied. -/
theorem two_pow_mul_zpow (count : Nat) (exponent : Int) :
    (2 : ℚ) ^ count * 2 ^ exponent = 2 ^ (count + exponent) := by
  rw [zpow_add₀ two_ne_zero, zpow_natCast]

/-- A fraction that is divided by a power of two. -/
theorem scaleBinary_spec (hdenominator : 0 < denominator) (exponent : Int) :
    0 < (scaleBinary numerator denominator (-exponent)).2 ∧
      ((scaleBinary numerator denominator (-exponent)).1 : ℚ) /
        (scaleBinary numerator denominator (-exponent)).2 =
          (numerator : ℚ) / denominator / 2 ^ exponent := by
  constructor
  · exact Nat.mul_pos hdenominator (Nat.pow_pos (by omega))
  · unfold scaleBinary
    simp only [Nat.pow_eq, Nat.cast_mul, Nat.cast_pow, Nat.cast_ofNat, neg_neg]
    rw [zpow_eq_div two_ne_zero exponent, div_div_eq_mul_div, div_mul_eq_mul_div, div_div]

/-- The numbers of binary digits bound a fraction. -/
theorem fraction_bounds (hnumerator : 0 < numerator) (hdenominator : 0 < denominator) :
    (2 : ℚ) ^ ((numerator.log2 : Int) - denominator.log2 - 1) ≤ numerator / denominator ∧
      (numerator : ℚ) / denominator < 2 ^ ((numerator.log2 : Int) - denominator.log2 + 1) := by
  have hlog : ∀ {number : Nat}, 0 < number →
      (2 : ℚ) ^ number.log2 ≤ number ∧ (number : ℚ) < 2 ^ (number.log2 + 1) := by
    intro number hnumber
    exact ⟨mod_cast Nat.log2_self_le (by omega), mod_cast Nat.lt_log2_self⟩
  have hquotient : ∀ more less : Nat, (2 : ℚ) ^ more / 2 ^ less = 2 ^ ((more : Int) - less) := by
    intro more less
    rw [zpow_sub₀ two_ne_zero, zpow_natCast, zpow_natCast]
  obtain ⟨hleast, hmost⟩ := hlog hnumerator
  obtain ⟨hleast', hmost'⟩ := hlog hdenominator
  have hpositive : (0 : ℚ) < denominator := mod_cast hdenominator
  constructor
  · calc (2 : ℚ) ^ ((numerator.log2 : Int) - denominator.log2 - 1)
        = 2 ^ numerator.log2 / 2 ^ (denominator.log2 + 1) := by
          rw [hquotient]
          congr 1
          omega
      _ ≤ numerator / denominator := by gcongr
  · calc (numerator : ℚ) / denominator
        < 2 ^ (numerator.log2 + 1) / 2 ^ denominator.log2 := by gcongr
      _ = 2 ^ ((numerator.log2 : Int) - denominator.log2 + 1) := by
          rw [hquotient]
          congr 1
          omega

/-- The exponent that is found suits the fraction. -/
theorem suitsLastBit_lastBitExponent (hnumerator : 0 < numerator)
    (hdenominator : 0 < denominator) :
    SuitsLastBit (numerator / denominator) (lastBitExponent numerator denominator) := by
  obtain ⟨hlow, hhigh⟩ := fraction_bounds hnumerator hdenominator
  unfold lastBitExponent
  dsimp only
  generalize hestimate : max ((numerator.log2 : Int) - denominator.log2 - 52) (-1074) = estimate
  obtain ⟨hdivisor, hscaled⟩ := @scaleBinary_spec numerator denominator hdenominator estimate
  have hpower : (0 : ℚ) < 2 ^ estimate := by positivity
  have hbits : (scaleBinary numerator denominator (-estimate)).1 /
      (scaleBinary numerator denominator (-estimate)).2 < Nat.pow 2 52 ↔
        (numerator : ℚ) / denominator < 2 ^ 52 * 2 ^ estimate := by
    rw [Nat.div_lt_iff_lt_mul hdivisor, ← div_lt_iff₀ hpower, ← hscaled,
      div_lt_iff₀ (mod_cast hdivisor)]
    norm_cast
  have hnext : (numerator : ℚ) / denominator < 2 ^ 53 * 2 ^ estimate := by
    rw [two_pow_mul_zpow]
    exact hhigh.trans_le (zpow_le_zpow_right₀ one_le_two (by omega))
  split
  · rename_i hfewer
    rw [hbits] at hfewer
    rcases Int.lt_or_eq_of_le (by omega : -1074 ≤ estimate) with hlower | hleast
    · -- The estimate is one too large, and it is not the least exponent.
      have hprevious : max (estimate - 1) (-1074) = estimate - 1 := by omega
      rw [hprevious]
      refine ⟨by omega, ?_, .inr ?_⟩
      · rw [two_pow_mul_zpow] at hfewer ⊢
        refine hfewer.trans_le (zpow_le_zpow_right₀ one_le_two (by omega))
      · rw [two_pow_mul_zpow]
        exact (zpow_le_zpow_right₀ one_le_two (by omega)).trans hlow
    · have hsame : max (estimate - 1) (-1074) = estimate := by omega
      rw [hsame]
      exact ⟨by omega, hnext, .inl hleast.symm⟩
  · rename_i hmany
    rw [hbits] at hmany
    exact ⟨by omega, hnext, .inr (not_lt.mp hmany)⟩

end LastBit

section Overflow

/-- The least magnitude that is rounded to infinity: the middle between the largest finite number
and the next power of two. -/
def overflowBound : ℚ := 2 ^ 1024 - 2 ^ 970

/-- The bound has 54 bits, all of them set. -/
theorem overflowBound_eq : overflowBound = (2 ^ 54 - 1) * 2 ^ (970 : Int) := by
  have hnext : (2 : ℚ) ^ 1024 = 2 ^ 54 * 2 ^ 970 := pow_add 2 54 970
  have hpower : (2 : ℚ) ^ (970 : Int) = 2 ^ 970 := zpow_natCast 2 970
  rw [overflowBound, hnext, hpower, sub_mul, one_mul]

/-- The bound lies between two powers of two. -/
theorem overflowBound_between : (2 : ℚ) ^ (1023 : Int) < overflowBound ∧
    overflowBound < 2 ^ (1024 : Int) := by
  have hpositive : (0 : ℚ) < 2 ^ (970 : Int) := by positivity
  have hlower : (2 : ℚ) ^ (1023 : Int) = 2 ^ 53 * 2 ^ (970 : Int) := (two_pow_mul_zpow 53 970).symm
  have hupper : (2 : ℚ) ^ (1024 : Int) = 2 ^ 54 * 2 ^ (970 : Int) := (two_pow_mul_zpow 54 970).symm
  rw [overflowBound_eq, hlower, hupper]
  constructor
  · exact mul_lt_mul_of_pos_right (by norm_num) hpositive
  · exact mul_lt_mul_of_pos_right (by norm_num) hpositive

/-- In units of the last mantissa bit a number is rounded to 53 bits or more exactly from the bound
on, where the exponent is the largest one. -/
theorem le_roundQuotient_iff_overflowBound {scaled divisor : Nat} {number : ℚ}
    (hdivisor : 0 < divisor) (h : (scaled : ℚ) / divisor = number / 2 ^ (971 : Int)) :
    2 ^ 53 ≤ roundQuotient scaled divisor ↔ overflowBound ≤ number := by
  have hpositive : (0 : ℚ) < divisor := mod_cast hdivisor
  have hpower : (0 : ℚ) < 2 ^ (971 : Int) := by positivity
  have hdouble : (2 : ℚ) ^ (971 : Int) = 2 * 2 ^ (970 : Int) := zpow_one_add₀ two_ne_zero 970
  calc 2 ^ 53 ≤ roundQuotient scaled divisor
      ↔ (2 * 2 ^ 53 - 1) * divisor ≤ 2 * scaled :=
        le_roundQuotient_iff hdivisor (by norm_num) (by norm_num)
    _ ↔ ((2 : ℚ) ^ 54 - 1) * divisor ≤ 2 * scaled := by
        rw [← Nat.cast_le (α := ℚ)]
        norm_num
    _ ↔ ((2 : ℚ) ^ 54 - 1) ≤ 2 * (scaled / divisor) := by
        rw [← mul_div_assoc, le_div_iff₀ hpositive]
    _ ↔ 2 * overflowBound ≤ 2 * number := by
        rw [h, ← mul_div_assoc, le_div_iff₀ hpower, overflowBound_eq, hdouble, mul_left_comm]
    _ ↔ overflowBound ≤ number := by
        rw [mul_le_mul_iff_right₀ two_pos]

/-- A number is rounded to fewer bits than those of infinity exactly below the bound. -/
theorem bitsOfCount_lt_iff {numerator denominator scaled divisor : Nat} {number : ℚ}
    (hdivisor : 0 < divisor)
    (suits : SuitsLastBit number (lastBitExponent numerator denominator))
    (h : (scaled : ℚ) / divisor = number / 2 ^ lastBitExponent numerator denominator) :
    bitsOfCount numerator denominator (roundQuotient scaled divisor) < infinityBits ↔
      number < overflowBound := by
  unfold bitsOfCount infinityBits
  generalize lastBitExponent numerator denominator = exponent at *
  obtain ⟨hleast, hfits, hnormal⟩ := suits
  obtain ⟨hbelow, habove⟩ := overflowBound_between
  have hpositive : (0 : ℚ) < divisor := mod_cast hdivisor
  have hpower : (0 : ℚ) < 2 ^ exponent := by positivity
  have hpow : Nat.pow 2 52 = 2 ^ 52 := rfl
  have hround := roundQuotient_eq_or_eq scaled divisor
  rw [hpow]
  rcases Int.lt_trichotomy exponent 971 with hsmall | rfl | hlarge
  · have hquotient : scaled / divisor < 2 ^ 53 := by
      rw [← div_lt_iff₀ hpower, ← h, div_lt_iff₀ hpositive] at hfits
      rw [Nat.div_lt_iff_lt_mul hdivisor]
      exact mod_cast hfits
    rw [two_pow_mul_zpow] at hfits
    have hnumber : number < overflowBound := hfits.trans_le
      ((zpow_le_zpow_right₀ one_le_two (by omega)).trans hbelow.le)
    exact iff_of_true (by omega) hnumber
  · have hbound := le_roundQuotient_iff_overflowBound hdivisor h
    have hexponent : ((971 : Int) + 1074).toNat = 2045 := rfl
    rw [hexponent, ← not_le (a := overflowBound), ← hbound]
    omega
  · have hfull := hnormal.resolve_left (by omega)
    have hquotient : 2 ^ 52 ≤ scaled / divisor := by
      rw [← le_div_iff₀ hpower, ← h, le_div_iff₀ hpositive] at hfull
      rw [Nat.le_div_iff_mul_le hdivisor]
      exact mod_cast hfull
    rw [two_pow_mul_zpow] at hfull
    have hnumber : overflowBound ≤ number := habove.le.trans
      ((zpow_le_zpow_right₀ one_le_two (by omega)).trans hfull)
    exact iff_of_false (by omega) (not_lt.mpr hnumber)

/-- A fraction is rounded to the bits of a finite number exactly below the bound. -/
theorem nearestBits_lt_iff {numerator denominator : Nat} (hdenominator : 0 < denominator) :
    nearestBits numerator denominator < infinityBits ↔
      (numerator : ℚ) / denominator < overflowBound := by
  rcases Nat.eq_zero_or_pos numerator with rfl | hnumerator
  · have hbound : (0 : ℚ) < overflowBound := lt_trans (by positivity) overflowBound_between.1
    rw [Nat.cast_zero, zero_div]
    exact iff_of_true (by simp [nearestBits, infinityBits]) hbound
  · obtain ⟨hdivisor, hscaled⟩ := @scaleBinary_spec numerator denominator hdenominator
      (lastBitExponent numerator denominator)
    unfold nearestBits
    rw [if_neg (by omega)]
    exact bitsOfCount_lt_iff hdivisor (suitsLastBit_lastBitExponent hnumerator hdenominator)
      hscaled

/-- No fraction is rounded to more bits than those of infinity. -/
theorem nearestBits_le (numerator denominator : Nat) :
    nearestBits numerator denominator ≤ infinityBits := by
  unfold nearestBits
  split
  · exact Nat.zero_le _
  · exact Nat.min_le_right _ _

/-- The number nearest to a fraction is finite exactly below the bound. -/
theorem isFinite_nearest_iff {negative : Bool} {numerator denominator : Nat}
    (hdenominator : 0 < denominator) : (nearest negative numerator denominator).isFinite = true ↔
      (numerator : ℚ) / denominator < overflowBound := by
  rw [nearest, isFinite_ofMagnitude_iff (nearestBits_le numerator denominator),
    nearestBits_lt_iff hdenominator]

/-- An infinity is not finite. -/
theorem isFinite_infinity (negative : Bool) : (infinity negative).isFinite = false := by
  rw [Bool.eq_false_iff, infinity, ne_eq, isFinite_ofMagnitude_iff le_rfl]
  exact lt_irrefl _

end Overflow

section Decimals

variable {coefficient : Nat} {exponent : Int}

/-- With a large exponent a decimal lies above the bound. -/
theorem overflowBound_le_of_large (hcoefficient : 0 < coefficient) (hlarge : 310 < exponent) :
    overflowBound ≤ (coefficient : ℚ) * 10 ^ exponent := by
  have hpowers : (2 : ℚ) ^ (1024 : Int) ≤ 10 ^ (311 : Int) := by
    have hnatural : 2 ^ 1024 ≤ 10 ^ 311 := by decide +kernel
    have hrational : (2 : ℚ) ^ 1024 ≤ 10 ^ 311 := by
      have hcast : ((2 ^ 1024 : Nat) : ℚ) ≤ ((10 ^ 311 : Nat) : ℚ) := Nat.cast_le.mpr hnatural
      rwa [Nat.cast_pow, Nat.cast_pow] at hcast
    rwa [← zpow_natCast, ← zpow_natCast] at hrational
  have hone : (1 : ℚ) ≤ coefficient := mod_cast hcoefficient
  have hpositive : (0 : ℚ) ≤ 10 ^ exponent := by positivity
  calc overflowBound ≤ 2 ^ (1024 : Int) := overflowBound_between.2.le
    _ ≤ 10 ^ (311 : Int) := hpowers
    _ ≤ 10 ^ exponent := zpow_le_zpow_right₀ (by norm_num) (by omega)
    _ ≤ coefficient * 10 ^ exponent := le_mul_of_one_le_left hpositive hone

/-- With an exponent far below zero a decimal lies below the bound. -/
theorem lt_overflowBound_of_small
    (hsmall : exponent < -(326 + ((coefficient.log2 + 1 : Nat) : Int))) :
    (coefficient : ℚ) * 10 ^ exponent < overflowBound := by
  have hdigits : (coefficient : ℚ) < 10 ^ (coefficient.log2 + 1) := by
    calc (coefficient : ℚ) < 2 ^ (coefficient.log2 + 1) := mod_cast Nat.lt_log2_self
      _ ≤ 10 ^ (coefficient.log2 + 1) := by gcongr; norm_num
  have hpositive : (0 : ℚ) < 10 ^ exponent := by positivity
  calc (coefficient : ℚ) * 10 ^ exponent
      < 10 ^ (coefficient.log2 + 1) * 10 ^ exponent := mul_lt_mul_of_pos_right hdigits hpositive
    _ = 10 ^ (((coefficient.log2 + 1 : Nat) : Int) + exponent) := by
        rw [zpow_add₀ (by norm_num), zpow_natCast]
    _ ≤ 1 := zpow_le_one_of_nonpos₀ (by norm_num) (by omega)
    _ ≤ 2 ^ (1023 : Int) := one_le_zpow₀ one_le_two (by norm_num)
    _ < overflowBound := overflowBound_between.1

/-- The number nearest to a decimal is finite exactly when the decimal is below the bound. -/
theorem isFinite_nearestDecimal_iff {negative : Bool} :
    (nearestDecimal negative coefficient exponent).isFinite = true ↔
      (coefficient : ℚ) * 10 ^ exponent < overflowBound := by
  have hbound : (0 : ℚ) < overflowBound := lt_trans (by positivity) overflowBound_between.1
  have hzero : (nearest negative 0 1).isFinite = true := by
    rw [isFinite_nearest_iff one_pos, Nat.cast_zero, zero_div]
    exact hbound
  unfold nearestDecimal
  dsimp only
  split
  · rename_i hnone
    rw [hnone, Nat.cast_zero, zero_mul]
    exact iff_of_true hzero hbound
  · rename_i hsome
    split
    · rename_i hlarge
      rw [isFinite_infinity]
      exact iff_of_false Bool.false_ne_true
        (not_lt.mpr (overflowBound_le_of_large (by omega) hlarge))
    · split
      · rename_i hsmall
        exact iff_of_true hzero (lt_overflowBound_of_small hsmall)
      · have hten : (10 : ℚ) ≠ 0 := by norm_num
        have hdenominator : 0 < Nat.pow 10 (-exponent).toNat := Nat.pow_pos (by omega)
        rw [isFinite_nearest_iff hdenominator, zpow_eq_div hten, ← mul_div_assoc]
        simp only [Nat.pow_eq, Nat.cast_mul, Nat.cast_pow, Nat.cast_ofNat]

/-- The literal stands for a number below the bound. -/
def Literal.InRange : Literal → Prop
  | .decimal _ coefficient exponent => (coefficient : ℚ) * 10 ^ exponent < overflowBound
  | .infinite _ | .undefined | .misspelled => False

/-- The number that a literal stands for is finite when the literal is below the bound. -/
theorem Literal.isFinite_value_iff {literal : Literal} {value : Float}
    (h : literal.value? = some value) : value.isFinite = true ↔ literal.InRange := by
  cases literal with
  | decimal negative coefficient exponent =>
    cases h
    exact isFinite_nearestDecimal_iff
  | infinite negative =>
    cases h
    rw [isFinite_infinity]
    exact iff_of_false Bool.false_ne_true id
  | undefined =>
    cases h
    exact iff_of_false (by decide) id
  | misspelled => contradiction

end Decimals

end UnitConversion.Numeric

import UnitConversion.Expression.Value
import UnitConversion.Output.Style
import UnitConversion.Proofs.ExactNumbers
import UnitConversion.Proofs.NumberGrammar
import UnitConversion.Proofs.WrittenFields

/-!
# Numerals that are printed

A finite number is printed as a decimal numeral: digits with a point among them or an exponent
behind them, and a minus in front at most. Such a text is read back as digits and never as one of
the words for infinity and for no number.
-/

namespace UnitConversion

open Text

namespace Numeric

/-- The text reads as a decimal number: it has digits, and it is none of the words for infinity and
for no number. -/
def IsNumeral (text : String) : Prop :=
  ∃ negative coefficient exponent,
    Literal.ofChars? text.toList = some (.decimal negative coefficient exponent)

/-- The characters write a decimal number without a sign. -/
def Unsigned (chars : List Char) : Prop :=
  ∃ mantissa whole fraction ending exponent, Mantissa mantissa whole fraction ∧
    ExponentPart ending exponent ∧ chars = mantissa ++ ending

/-- A decimal number is a numeral, with a minus before it or without one. -/
theorem Unsigned.isNumeral {text : String} (h : Unsigned text.toList) (negative : Bool) :
    IsNumeral ((if negative then "-" else "") ++ text) := by
  obtain ⟨mantissa, whole, fraction, ending, exponent, digits, ends, hchars⟩ := h
  have hsigned : ∀ {sign : List Char}, SignMark sign negative → ∃ coefficient power,
      Literal.ofChars? (sign ++ text.toList) = some (.decimal negative coefficient power) := by
    intro sign signed
    rw [hchars]
    exact ⟨_, _, (writes_iff.mp (.decimal signed digits ends)).1⟩
  refine ⟨negative, ?_⟩
  rw [String.toList_append]
  cases negative with
  | true => exact hsigned .minus
  | false => exact hsigned .none

/-- A significand has digits and nothing else. -/
structure Significand.Valid (value : Significand) : Prop where
  /-- There is a digit. -/
  some_digit : value.digits ≠ []
  /-- The digits are below ten. -/
  below : ∀ digit ∈ value.digits, digit < 10

/-- The digits of a number are below ten. -/
theorem lt_of_mem_decimalDigits {number digit : Nat} (h : digit ∈ decimalDigits number) :
    digit < 10 := by
  obtain ⟨c, hc, rfl⟩ := List.mem_map.mp h
  have hdigit := Nat.isDigit_of_mem_toDigits (by omega) (by omega) hc
  have hmost : c.toNat ≤ 57 := by
    simp only [Char.isDigit, Bool.and_eq_true, decide_eq_true_eq] at hdigit
    exact hdigit.2
  omega

/-- A fraction that is rounded to one digit at least is a significand. -/
theorem Significand.valid_significand {count : Nat} (h : 0 < count) (numerator denominator : Nat) :
    (significand count numerator denominator).Valid where
  some_digit := by
    have hdigits : ∀ number, decimalDigits number ≠ [] := by
      intro number
      rw [decimalDigits, ne_eq, List.map_eq_nil_iff]
      exact Nat.toDigits_ne_nil
    have hcount : count ≠ 0 := by omega
    simp [significand, List.take_eq_nil_iff, hdigits, hcount]
  below := by
    intro digit hin
    exact lt_of_mem_decimalDigits (List.mem_of_mem_take hin)

/-- Without zeros at its end a significand is one. -/
theorem Significand.Valid.trimZeros {value : Significand} (valid : value.Valid) :
    value.trimZeros.Valid := by
  obtain ⟨digits, exponent⟩ := value
  obtain ⟨first, rest, hdigits⟩ := List.exists_cons_of_ne_nil valid.some_digit
  dsimp only at hdigits
  subst hdigits
  constructor
  · simp [Significand.trimZeros]
  · intro digit hin
    apply valid.below
    rcases List.mem_cons.mp hin with rfl | hlater
    · exact List.mem_cons_self
    · have hkept := (List.dropWhile_suffix _).subset (List.mem_reverse.mp hlater)
      exact List.mem_cons_of_mem _ (List.mem_reverse.mp hkept)

/-- A row of digits is written with digits only. -/
theorem all_digitsText {digits : List Nat} (h : ∀ digit ∈ digits, digit < 10) :
    (digitsText digits).toList.all isDecimalDigit = true := by
  rw [digitsText, String.toList_ofList, List.all_eq_true]
  intro c hc
  obtain ⟨digit, hdigit, rfl⟩ := List.mem_map.mp hc
  have hlt := h digit hdigit
  exact isDecimalDigit_of_isDigit (by simpa using hlt)

/-- An exponent that is written is one of the grammar. -/
theorem exponentPart_exponentText (exponent : Int) :
    ∃ number, ExponentPart (exponentText exponent).toList number := by
  have hnumber : (toString exponent.natAbs).toList = Nat.toDigits 10 exponent.natAbs :=
    Nat.toList_repr
  have hall := all_isDecimalDigit_toDigits exponent.natAbs
  -- A single digit has a zero before it.
  have hpadded : ∃ digits, Digits digits ∧
      (if (toString exponent.natAbs).length < 2 then "0" ++ toString exponent.natAbs
        else toString exponent.natAbs).toList = digits := by
    split
    · refine ⟨'0' :: Nat.toDigits 10 exponent.natAbs, ⟨by simp, ?_⟩, ?_⟩
      · rw [List.all_cons, hall]
        decide
      · rw [String.toList_append, hnumber]
        rfl
    · exact ⟨_, ⟨Nat.toDigits_ne_nil, hall⟩, hnumber⟩
  obtain ⟨digits, number, htext⟩ := hpadded
  unfold exponentText
  dsimp only
  rw [String.toList_append, htext]
  split
  · exact ⟨_, .written (.inl rfl) .minus number⟩
  · exact ⟨_, .written (.inl rfl) .plus number⟩

/-- Zeros are below ten. -/
theorem lt_of_mem_replicate_zero {count digit : Nat} (h : digit ∈ List.replicate count 0) :
    digit < 10 := by
  rw [List.eq_of_mem_replicate h]
  omega

/-- Some digits are written with some. -/
theorem toList_digitsText_ne_nil {digits : List Nat} (h : digits ≠ []) :
    (digitsText digits).toList ≠ [] := by
  simpa [digitsText] using h

/-- Digits alone are an unsigned number. -/
theorem unsigned_digits {digits : List Char} (hsome : digits ≠ [])
    (hdigits : digits.all isDecimalDigit = true) : Unsigned digits :=
  ⟨_, _, _, _, _, .whole ⟨hsome, hdigits⟩, .none, (List.append_nil digits).symm⟩

/-- Digits on both sides of a point are an unsigned number. -/
theorem unsigned_point {digits fraction : List Char} (hsome : digits ≠ [])
    (hdigits : digits.all isDecimalDigit = true) (hfraction : fraction.all isDecimalDigit = true) :
    Unsigned (digits ++ '.' :: fraction) :=
  ⟨_, _, _, _, _, .pointed ⟨hsome, hdigits⟩ hfraction, .none, (List.append_nil _).symm⟩

/-- The positional form is that of an unsigned number. -/
theorem unsigned_positionalText (style : NumeralStyle) {value : Significand} (valid : value.Valid) :
    Unsigned (positionalText style value).toList := by
  unfold positionalText
  split
  · -- The number is below one, so the point stands behind a zero.
    have hfraction : ∀ digit ∈ List.replicate ((-value.exponent).toNat - 1) 0 ++ value.digits,
        digit < 10 := by
      intro digit hin
      rcases List.mem_append.mp hin with hzero | hdigit
      · exact lt_of_mem_replicate_zero hzero
      · exact valid.below digit hdigit
    have htext : ∀ text : String, ("0." ++ text).toList = ['0'] ++ '.' :: text.toList := by
      intro text
      rw [String.toList_append]
      rfl
    rw [htext]
    exact unsigned_point (by simp) (by decide) (all_digitsText hfraction)
  · dsimp only
    have hwhole : (digitsText (value.digits.take (value.exponent.toNat + 1)) ++
        digitsText (List.replicate (value.exponent.toNat + 1 - value.digits.length) 0)).toList.all
          isDecimalDigit = true := by
      rw [String.toList_append, List.all_append, all_digitsText, all_digitsText]
      · rfl
      · intro digit hzero
        exact lt_of_mem_replicate_zero hzero
      · intro digit hin
        exact valid.below digit (List.mem_of_mem_take hin)
    have hsome : (digitsText (value.digits.take (value.exponent.toNat + 1)) ++
        digitsText (List.replicate (value.exponent.toNat + 1 - value.digits.length) 0)).toList ≠
          [] := by
      have htake : value.digits.take (value.exponent.toNat + 1) ≠ [] := by
        simp [List.take_eq_nil_iff, valid.some_digit]
      rw [String.toList_append]
      exact List.append_ne_nil_of_left_ne_nil (toList_digitsText_ne_nil htake) _
    split
    · split
      · rw [String.toList_append]
        have hzero : ['0'].all isDecimalDigit = true := by decide
        exact unsigned_point hsome hwhole hzero
      · exact unsigned_digits hsome hwhole
    · rename_i hrest
      have hfraction : ∀ digit ∈ value.digits.drop (value.exponent.toNat + 1), digit < 10 :=
        fun digit hin => valid.below digit (List.mem_of_mem_drop hin)
      rw [String.toList_append, String.toList_append, List.append_assoc]
      exact unsigned_point hsome hwhole (all_digitsText hfraction)

/-- The form with an exponent is that of an unsigned number. -/
theorem unsigned_exponentialText {value : Significand} (valid : value.Valid) :
    Unsigned (exponentialText value).toList := by
  obtain ⟨number, ends⟩ := exponentPart_exponentText value.exponent
  obtain ⟨first, rest, hdigits⟩ := List.exists_cons_of_ne_nil valid.some_digit
  have hbelow : ∀ digit ∈ first :: rest, digit < 10 := by
    rw [← hdigits]
    exact valid.below
  have hfirst : (digitsText [first]).toList.all isDecimalDigit = true :=
    all_digitsText fun digit hin => by
      rw [List.mem_singleton.mp hin]
      exact hbelow first List.mem_cons_self
  have hsome : (digitsText [first]).toList ≠ [] := toList_digitsText_ne_nil (by simp)
  unfold exponentialText
  rw [hdigits]
  cases rest with
  | nil =>
    dsimp only
    rw [String.toList_append]
    exact ⟨_, _, _, _, _, .whole ⟨hsome, hfirst⟩, ends, rfl⟩
  | cons second later =>
    have hrest : (digitsText (second :: later)).toList.all isDecimalDigit = true :=
      all_digitsText fun digit hin => hbelow digit (List.mem_cons_of_mem _ hin)
    refine ⟨_, _, _, _, _, .pointed ⟨hsome, hfirst⟩ hrest, ends, ?_⟩
    simp

/-- A significand is written as an unsigned number in every style. -/
theorem unsigned_render (style : NumeralStyle) {value : Significand} (valid : value.Valid) :
    Unsigned (style.render value).toList := by
  unfold NumeralStyle.render
  split
  · exact unsigned_positionalText style valid
  · exact unsigned_exponentialText valid

/-- A finite number is written as a numeral when its digits are found. -/
theorem isNumeral_text (style : NumeralStyle) {choose : Nat → Nat → Significand}
    (hchoose : ∀ numerator denominator, (choose numerator denominator).Valid) {x : Float}
    (finite : x.isFinite = true) : IsNumeral (style.text choose x) := by
  obtain ⟨number, hnumber⟩ := isFinite_iff.mp finite
  have hzero : Significand.Valid ⟨[0], 0⟩ := ⟨by simp, by simp⟩
  unfold NumeralStyle.text
  rw [hnumber]
  dsimp only
  apply Unsigned.isNumeral
  apply unsigned_render
  split
  · exact hzero
  · exact (hchoose _ _).trimZeros

end Numeric

/-- A finite number is printed as a numeral with every precision. -/
theorem isNumeral_formatNumber (precision : Precision) {value : Float}
    (finite : value.isFinite = true) : Numeric.IsNumeral (formatNumber precision value) := by
  have hzero : Numeric.IsNumeral "0" := ⟨false, 0, 0, by decide⟩
  unfold formatNumber
  dsimp only
  split
  · exact hzero
  · exact Numeric.isNumeral_text _
      (fun _ _ => Numeric.Significand.valid_significand precision.valid.1 _ _) finite

/-- A numeral looks like a value. -/
theorem looksLikeValue_of_isNumeral {text : String} (h : Numeric.IsNumeral text) :
    ValueExpression.looksLikeValue text = true := by
  obtain ⟨negative, coefficient, exponent, hread⟩ := h
  simp [ValueExpression.looksLikeValue, Numeric.isLiteral, hread]

end UnitConversion

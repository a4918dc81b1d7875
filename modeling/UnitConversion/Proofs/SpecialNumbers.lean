import Mathlib.Logic.Basic
import UnitConversion.Numeric.Binary64

/-!
# Zero, the infinities and what is no number

How arithmetic deals with the floating-point numbers that are not finite, and with zero. What is no
number stays none in every operation. An infinity does not become finite again, except as a divisor:
then it makes a zero. What is divided by zero becomes infinite, unless it is zero itself.
-/

namespace UnitConversion.Numeric

open Float.Model Float.Model.UnpackedFloat

/-- The number is zero, of either sign. -/
def isZero (x : Float) : Bool := x == 0

variable {x y : Float}

section Kinds

theorem isNaN_iff : x.isNaN = true ↔ x.toModel.unpack = .notANumber := by
  change x.toModel.unpack.isNaN = true ↔ _
  cases x.toModel.unpack with
  | notANumber => exact ⟨fun _ => rfl, fun _ => rfl⟩
  | _ => exact ⟨nofun, nofun⟩

theorem isInf_iff : x.isInf = true ↔ ∃ sign, x.toModel.unpack = .infinity sign := by
  change x.toModel.unpack.isInf = true ↔ _
  cases x.toModel.unpack with
  | infinity sign => exact ⟨fun _ => ⟨sign, rfl⟩, fun _ => rfl⟩
  | _ => exact ⟨nofun, nofun⟩

/-- Zero compares as equal to both zeros, and to nothing else. -/
theorem isZero_iff : isZero x = true ↔ ∃ sign, x.toModel.unpack = .zero sign := by
  have hzero : (0 : Float).toModel.unpack = .zero .positive := by rfl
  change x.toModel.unpack.beq (0 : Float).toModel.unpack = true ↔ _
  rw [hzero]
  cases x.toModel.unpack with
  | zero sign => exact ⟨fun _ => ⟨sign, rfl⟩, fun _ => rfl⟩
  | notANumber => exact ⟨nofun, nofun⟩
  | infinity sign | finite sign => cases sign <;> exact ⟨nofun, nofun⟩

/-- What is not finite is infinite, or no number. -/
theorem isFinite_eq_false_iff : x.isFinite = false ↔ x.isInf = true ∨ x.isNaN = true := by
  change x.toModel.unpack.isFinite = false ↔
    x.toModel.unpack.isInf = true ∨ x.toModel.unpack.isNaN = true
  cases x.toModel.unpack with
  | infinity sign => exact ⟨fun _ => .inl rfl, fun _ => rfl⟩
  | notANumber => exact ⟨fun _ => .inr rfl, fun _ => rfl⟩
  | _ => exact ⟨nofun, fun h => h.elim nofun nofun⟩

/-- What is packed as no number is none. -/
theorem isNaN_of_pack (h : x.toModel = .pack .notANumber) : x.isNaN = true := by
  rw [isNaN_iff, h]
  rfl

/-- What is packed as an infinity is one. -/
theorem isInf_of_pack {sign : Sign} (h : x.toModel = .pack (.infinity sign)) :
    x.isInf = true := by
  rw [isInf_iff, h]
  exact ⟨sign, by cases sign <;> rfl⟩

/-- What is packed as a zero is one. -/
theorem isZero_of_pack {sign : Sign} (h : x.toModel = .pack (.zero sign)) : isZero x = true := by
  rw [isZero_iff, h]
  exact ⟨sign, by cases sign <;> rfl⟩

/-- What is not finite is not packed as a finite number. -/
theorem isFinite_of_pack {unpacked : UnpackedFloat} (h : x.toModel = .pack unpacked)
    (hunpacked : unpacked.isFinite = false) : x.isFinite = false := by
  rw [isFinite_eq_false_iff]
  cases unpacked with
  | infinity sign => exact .inl (isInf_of_pack h)
  | notANumber => exact .inr (isNaN_of_pack h)
  | zero sign => contradiction
  | finite sign mantissa exponent mantissa_pos => contradiction

end Kinds

section NotANumber

/-- The result of an operation that makes no number of what is none is none. -/
theorem isNaN_of_operand {z : Float} {op : UnpackedFloat → UnpackedFloat → UnpackedFloat}
    (hz : z.toModel = .pack (op x.toModel.unpack y.toModel.unpack))
    (hleft : ∀ right, op .notANumber right = .notANumber)
    (hright : ∀ left, op left .notANumber = .notANumber)
    (h : x.isNaN = true ∨ y.isNaN = true) : z.isNaN = true := by
  rcases h with h | h
  · rw [isNaN_iff.mp h, hleft] at hz
    exact isNaN_of_pack hz
  · rw [isNaN_iff.mp h, hright] at hz
    exact isNaN_of_pack hz

/-- A product with what is no number is none. -/
theorem isNaN_mul (h : x.isNaN = true ∨ y.isNaN = true) : (x * y).isNaN = true :=
  @isNaN_of_operand x y _ (mul Format.binary64) rfl (fun right => by cases right <;> rfl)
    (fun left => by cases left <;> rfl) h

/-- A sum with what is no number is none. -/
theorem isNaN_add (h : x.isNaN = true ∨ y.isNaN = true) : (x + y).isNaN = true :=
  @isNaN_of_operand x y _ (add Format.binary64) rfl (fun right => by cases right <;> rfl)
    (fun left => by cases left <;> rfl) h

/-- A quotient with what is no number is none. -/
theorem isNaN_div (h : x.isNaN = true ∨ y.isNaN = true) : (x / y).isNaN = true :=
  @isNaN_of_operand x y _ (div Format.binary64) rfl (fun right => by cases right <;> rfl)
    (fun left => by cases left <;> rfl) h

end NotANumber

section Infinity

/-- A product with what is not finite is not finite. -/
theorem isFinite_mul (h : x.isFinite = false ∨ y.isFinite = false) : (x * y).isFinite = false := by
  refine @isFinite_of_pack _ (mul Format.binary64 x.toModel.unpack y.toModel.unpack) rfl ?_
  change x.toModel.unpack.isFinite = false ∨ y.toModel.unpack.isFinite = false at h
  generalize x.toModel.unpack = left at h ⊢
  generalize y.toModel.unpack = right at h ⊢
  cases left <;> cases right <;>
    first | rfl | exact h.elim nofun nofun

/-- A sum with what is not finite is not finite. -/
theorem isFinite_add (h : x.isFinite = false ∨ y.isFinite = false) : (x + y).isFinite = false := by
  have hboth : ∀ sign other, (add Format.binary64 (.infinity sign) (.infinity other)).isFinite =
      false := by
    intro sign other
    cases sign <;> cases other <;> rfl
  refine @isFinite_of_pack _ (add Format.binary64 x.toModel.unpack y.toModel.unpack) rfl ?_
  change x.toModel.unpack.isFinite = false ∨ y.toModel.unpack.isFinite = false at h
  generalize x.toModel.unpack = left at h ⊢
  generalize y.toModel.unpack = right at h ⊢
  cases left <;> cases right <;>
    first | rfl | exact hboth _ _ | exact h.elim nofun nofun

/-- What is not finite is not finite when it is divided. -/
theorem isFinite_div (h : x.isFinite = false) : (x / y).isFinite = false := by
  refine @isFinite_of_pack _ (div Format.binary64 x.toModel.unpack y.toModel.unpack) rfl ?_
  change x.toModel.unpack.isFinite = false at h
  generalize x.toModel.unpack = left at h ⊢
  cases left <;> cases y.toModel.unpack <;>
    first | rfl | contradiction

/-- A finite number that is divided by an infinity is zero. -/
theorem isZero_div_of_isInf (hx : x.isFinite = true) (hy : y.isInf = true) :
    isZero (x / y) = true := by
  obtain ⟨sign, hy⟩ := isInf_iff.mp hy
  change x.toModel.unpack.isFinite = true at hx
  have hdiv : (x / y).toModel =
      Float.Model.pack (div Format.binary64 x.toModel.unpack y.toModel.unpack) := rfl
  rw [hy] at hdiv
  cases hunpack : x.toModel.unpack with
  | infinity sign =>
    rw [hunpack] at hx
    contradiction
  | notANumber =>
    rw [hunpack] at hx
    contradiction
  | zero sign =>
    rw [hunpack] at hdiv
    exact isZero_of_pack hdiv
  | finite sign mantissa exponent mantissa_pos =>
    rw [hunpack] at hdiv
    exact isZero_of_pack hdiv

end Infinity

section Zero

/-- Zero stays zero when it is divided by what is neither zero nor no number. -/
theorem isZero_div (hx : isZero x = true) (hzero : isZero y = false) (hnumber : y.isNaN = false) :
    isZero (x / y) = true := by
  obtain ⟨sign, hx⟩ := isZero_iff.mp hx
  have hdiv : (x / y).toModel =
      Float.Model.pack (div Format.binary64 x.toModel.unpack y.toModel.unpack) := rfl
  rw [hx] at hdiv
  cases hunpack : y.toModel.unpack with
  | infinity sign =>
    rw [hunpack] at hdiv
    exact isZero_of_pack hdiv
  | notANumber =>
    rw [isNaN_iff.mpr hunpack] at hnumber
    contradiction
  | zero sign =>
    rw [isZero_iff.mpr ⟨sign, hunpack⟩] at hzero
    contradiction
  | finite sign mantissa exponent mantissa_pos =>
    rw [hunpack] at hdiv
    exact isZero_of_pack hdiv

/-- A finite number that is not zero is infinite when it is divided by zero. -/
theorem isInf_div_of_isZero (hfinite : x.isFinite = true) (hsome : isZero x = false)
    (hy : isZero y = true) : (x / y).isInf = true := by
  obtain ⟨sign, hy⟩ := isZero_iff.mp hy
  change x.toModel.unpack.isFinite = true at hfinite
  have hdiv : (x / y).toModel =
      Float.Model.pack (div Format.binary64 x.toModel.unpack y.toModel.unpack) := rfl
  rw [hy] at hdiv
  cases hunpack : x.toModel.unpack with
  | infinity sign =>
    rw [hunpack] at hfinite
    contradiction
  | notANumber =>
    rw [hunpack] at hfinite
    contradiction
  | zero sign =>
    rw [isZero_iff.mpr ⟨sign, hunpack⟩] at hsome
    contradiction
  | finite sign mantissa exponent mantissa_pos =>
    rw [hunpack] at hdiv
    exact isInf_of_pack hdiv

/-- The reciprocal of zero is infinite. -/
theorem isInf_one_div (h : isZero x = true) : (1.0 / x).isInf = true :=
  isInf_div_of_isZero (by decide +kernel) (by decide +kernel) h

/-- Zero is finite. -/
theorem isFinite_of_isZero (h : isZero x = true) : x.isFinite = true := by
  obtain ⟨sign, h⟩ := isZero_iff.mp h
  change x.toModel.unpack.isFinite = true
  rw [h]
  rfl

end Zero

end UnitConversion.Numeric

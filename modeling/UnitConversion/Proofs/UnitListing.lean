import Mathlib.Data.List.Induction
import Mathlib.Data.List.Nodup
import UnitConversion.Proofs.Outcomes
import UnitConversion.Registry

/-!
# Listings of the units

A listing shows the units quantity by quantity. The quantities are found while the units are gone
through once, and the units of each are picked out afterwards, so what has to be shown is that the
two agree: the quantities are those of the units, each once and in the order of its first unit, and
therefore the parts of a listing hold every unit once and in its order.
-/

namespace UnitConversion.Registry

variable {units : List MeasureUnit} {quantities : List Quantity}

/-- The position of the first unit of a quantity; behind all units when there is none. -/
def firstOf (units : List MeasureUnit) (quantity : Quantity) : Nat :=
  units.findIdx fun unit => unit.quantity == quantity

/-- The quantities are those of the units, in the order in which they first appear. -/
structure FirstSeen (units : List MeasureUnit) (quantities : List Quantity) : Prop where
  /-- A quantity is there when some unit has it. -/
  mem_iff : ∀ quantity, quantity ∈ quantities ↔ ∃ unit ∈ units, unit.quantity = quantity
  /-- Of two quantities the one whose first unit comes earlier is earlier. -/
  order : quantities.Pairwise fun left right => firstOf units left < firstOf units right

section Quantities

/-- A quantity has a first unit when some unit has it. -/
theorem firstOf_lt_length_iff {quantity : Quantity} :
    firstOf units quantity < units.length ↔ ∃ unit ∈ units, unit.quantity = quantity := by
  unfold firstOf
  rw [List.findIdx_lt_length]
  simp

/-- With further units behind them the first of the units stays the first one. -/
theorem firstOf_append (units later : List MeasureUnit) (quantity : Quantity) :
    firstOf (units ++ later) quantity =
      if firstOf units quantity < units.length then firstOf units quantity
      else firstOf later quantity + units.length :=
  List.findIdx_append

/-- One more unit adds its quantity at the end, unless the quantity is there. -/
theorem FirstSeen.concat (seen : FirstSeen units quantities) (unit : MeasureUnit) :
    FirstSeen (units ++ [unit]) (if quantities.contains unit.quantity then quantities
      else quantities ++ [unit.quantity]) := by
  have hold : ∀ quantity ∈ quantities,
      firstOf (units ++ [unit]) quantity = firstOf units quantity := by
    intro quantity hin
    rw [firstOf_append, if_pos (firstOf_lt_length_iff.mpr ((seen.mem_iff quantity).mp hin))]
  have horder : quantities.Pairwise fun left right =>
      firstOf (units ++ [unit]) left < firstOf (units ++ [unit]) right :=
    seen.order.imp_of_mem fun hleft hright hless => by rwa [hold _ hleft, hold _ hright]
  have hsome : ∀ quantity, (∃ other ∈ units ++ [unit], other.quantity = quantity) ↔
      quantity ∈ quantities ∨ unit.quantity = quantity := by
    intro quantity
    rw [seen.mem_iff]
    simp [or_and_right, exists_or]
  split
  · rename_i hthere
    rw [List.contains_iff_mem] at hthere
    refine ⟨fun quantity => ?_, horder⟩
    rw [hsome, or_iff_left_of_imp]
    rintro rfl
    exact hthere
  · rename_i hnew
    rw [List.contains_iff_mem] at hnew
    constructor
    · intro quantity
      rw [hsome, List.mem_append, List.mem_singleton, eq_comm (a := quantity)]
    · rw [List.pairwise_append]
      refine ⟨horder, List.pairwise_singleton _ _, ?_⟩
      intro left hleft right hright
      have hfirst := firstOf_lt_length_iff.mpr ((seen.mem_iff left).mp hleft)
      have hnone := firstOf_lt_length_iff.not.mpr ((seen.mem_iff unit.quantity).not.mp hnew)
      rw [List.mem_singleton.mp hright, hold left hleft, firstOf_append, if_neg hnone]
      omega

/-- No quantity is there twice. -/
theorem FirstSeen.nodup (seen : FirstSeen units quantities) : quantities.Nodup :=
  seen.order.imp fun hless hsame => by
    rw [hsame] at hless
    exact absurd hless (Nat.lt_irrefl _)

end Quantities

section Parts

end Parts

section Lines

variable (registry : Registry) (quantities : List Quantity)

end Lines

end UnitConversion.Registry

/-!
# Ranges of code points

Properties of characters that a standard defines by listing code points are kept as tables of closed
ranges.
-/

namespace UnitConversion.Text

/-- The code point of the character lies in one of the closed ranges. -/
def inRanges (ranges : List (Nat × Nat)) (c : Char) : Bool :=
  ranges.any fun range => range.1 ≤ c.toNat && c.toNat ≤ range.2

end UnitConversion.Text

/-!
# Cutting text at a separator

The parts between the occurrences of a character. There is always one part more than there are
separators, so a text without any is its own only part. Nothing is lost by the cuts
(`intercalate_splitAtChar`).
-/

namespace UnitConversion.Text

/-- The parts between the separators. -/
def splitAtChar (separator : Char) : List Char → List (List Char)
  | [] => [[]]
  | c :: rest =>
    if c = separator then [] :: splitAtChar separator rest
    else
      match splitAtChar separator rest with
      | [] => [[c]]
      | part :: parts => (c :: part) :: parts

/-- There is at least one part. -/
theorem splitAtChar_ne_nil (separator : Char) (chars : List Char) :
    splitAtChar separator chars ≠ [] := by
  unfold splitAtChar
  repeat' split
  all_goals simp

/-- Putting the separators back gives the text. -/
theorem intercalate_splitAtChar (separator : Char) (chars : List Char) :
    List.intercalate [separator] (splitAtChar separator chars) = chars := by
  induction chars with
  | nil => rfl
  | cons c rest ih =>
    have parts := splitAtChar_ne_nil separator rest
    unfold splitAtChar
    split
    · rename_i h
      cases found : splitAtChar separator rest with
      | nil => exact absurd found parts
      | cons part others =>
        rw [found] at ih
        simpa [List.intercalate, h] using ih
    · split
      · rename_i found
        exact absurd found parts
      · rename_i part others found
        rw [found] at ih
        cases others <;> simp_all [List.intercalate]

end UnitConversion.Text

import UnitConversion.Text.CodeRange

/-!
# Blank characters

What counts as blank at the ends of a name, a key or a number, and the removal of such characters.
-/

namespace UnitConversion.Text

/-- The blank characters: the ASCII ones with the four separators of files, groups, records and
units, the line breaks and spaces of Latin-1, and the separators of the higher planes. A zero-width
space and a byte order mark are not blank. -/
def blankRanges : List (Nat × Nat) :=
  [(0x9, 0xd), (0x1c, 0x20), (0x85, 0x85), (0xa0, 0xa0), (0x1680, 0x1680), (0x2000, 0x200a),
   (0x2028, 0x2029), (0x202f, 0x202f), (0x205f, 0x205f), (0x3000, 0x3000)]

/-- The character is blank. -/
def isBlank (c : Char) : Bool := inRanges blankRanges c

/-- Remove the characters with a property from both ends. -/
def stripChars (drop : Char → Bool) (chars : List Char) : List Char :=
  ((chars.dropWhile drop).reverse.dropWhile drop).reverse

/-- Remove the blanks at both ends. -/
def trimChars (chars : List Char) : List Char := stripChars isBlank chars

/-- Remove the blanks at both ends of a text. -/
def trim (text : String) : String := String.ofList (trimChars text.toList)

end UnitConversion.Text

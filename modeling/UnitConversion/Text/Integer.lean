import UnitConversion.Text.Blank
import UnitConversion.Text.DecimalDigit

/-!
# Integers in text

Decimal integers are read from digits of any script. A digit string longer than a limit is refused,
because turning it into a number takes time that grows with the square of its length.
-/

namespace UnitConversion.Text

/-- The most digits an integer may be written with; nothing stands for no limit. -/
abbrev DigitLimit := Option Nat

/-- The limit in force. -/
def digitLimit : DigitLimit := some 4300

/-- An integer with more digits than the limit allows. -/
structure TooManyDigits where
  /-- The limit. -/
  limit : Nat
  /-- The digits written. -/
  count : Nat
deriving DecidableEq, Repr

/-- The refusal in words. -/
def TooManyDigits.message (refusal : TooManyDigits) : String :=
  s!"Exceeds the limit ({refusal.limit} digits) for integer string conversion: value has " ++
    s!"{refusal.count} digits; use sys.set_int_max_str_digits() to increase the limit"

/-- The refusal of a number that is too long to be written out. -/
def TooManyDigits.printMessage (refusal : TooManyDigits) : String :=
  s!"Exceeds the limit ({refusal.limit} digits) for integer string conversion; use " ++
    "sys.set_int_max_str_digits() to increase the limit"

/-- Split a sign off the front: true for a minus. -/
def splitSign : List Char → Bool × List Char
  | '-' :: rest => (true, rest)
  | '+' :: rest => (false, rest)
  | chars => (false, chars)

/-- An optional sign and at least one digit, and nothing else. -/
def isInteger (chars : List Char) : Bool :=
  let digits := (splitSign chars).2
  !digits.isEmpty && digits.all isDecimalDigit

/-- The number that a row of digits writes, within the limit. -/
def natOfDigits (limit : DigitLimit) (digits : List Char) : Except TooManyDigits Nat :=
  match limit with
  | some most =>
    if digits.length ≤ most then .ok (digitsValue digits) else .error ⟨most, digits.length⟩
  | none => .ok (digitsValue digits)

/-- The number that an optional sign and digits write, within the limit. -/
def intOfDigits (limit : DigitLimit) (chars : List Char) : Except TooManyDigits Int := do
  let (negative, digits) := splitSign chars
  let magnitude ← natOfDigits limit digits
  return if negative then -(magnitude : Int) else magnitude

/-- Remove single underscores between digits. Nothing when one stands elsewhere. -/
def dropSeparators : List Char → Option (List Char)
  | [] => none
  | c :: rest =>
    if !isDecimalDigit c then none
    else
      match rest with
      | [] => some [c]
      | '_' :: tail => (dropSeparators tail).map (c :: ·)
      | next :: tail => (dropSeparators (next :: tail)).map (c :: ·)

/-- The blanks that may surround an integer: the separators of files, groups, records and units are
not among them. -/
def isIntegerBlank (c : Char) : Bool := isBlank c && !inRanges [(0x1c, 0x1f)] c

/-- Read an integer the lenient way: blanks around it, a sign, and underscores between digits. -/
def readInteger? (text : String) : Option Int := do
  let (negative, body) := splitSign (stripChars isIntegerBlank text.toList)
  let digits ← dropSeparators body
  match natOfDigits digitLimit digits with
  | .ok magnitude => some (if negative then -(magnitude : Int) else magnitude)
  | .error _ => none

end UnitConversion.Text

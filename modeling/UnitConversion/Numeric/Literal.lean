import UnitConversion.Numeric.Binary64
import UnitConversion.Text.Integer
import UnitConversion.Text.Quoted

/-!
# Number literals

The grammar of number literals: an optional sign, then decimal digits with an optional point and an
optional exponent, or the words for infinity and for no number in any case. Digits of every script
count.
-/

namespace UnitConversion.Numeric

open Text

/-- A number literal taken apart. -/
inductive Literal
  /-- Plus or minus `coefficient * 10 ^ exponent`. -/
  | decimal (negative : Bool) (coefficient : Nat) (exponent : Int)
  /-- Plus or minus infinity. -/
  | infinite (negative : Bool)
  /-- No number. -/
  | undefined
  /-- One of the words, spelled with a dotless or a dotted capital i. -/
  | misspelled
deriving DecidableEq, Repr

/-- The letter that a character is when case does not matter. The dotless i and the dotted capital
one are taken for an i. -/
def caselessLetter (c : Char) : Char :=
  if c.toNat = 0x130 ∨ c.toNat = 0x131 then 'i' else c.toLower

/-- The words for infinity and for no number, without their sign. -/
def Literal.ofWord? (negative : Bool) (word : List Char) : Option Literal :=
  let spelled := word.map caselessLetter
  let known (value : Literal) : Literal := if word.all (·.toNat < 128) then value else .misspelled
  if spelled = "inf".toList ∨ spelled = "infinity".toList then some (known (.infinite negative))
  else if spelled = "nan".toList then some (known .undefined)
  else none

/-- An exponent: nothing, or a letter e, an optional sign and digits. -/
def exponent? : List Char → Option Int
  | [] => some 0
  | c :: rest =>
    if (c = 'e' ∨ c = 'E') ∧ isInteger rest then
      let (negative, digits) := splitSign rest
      some (if negative then -(digitsValue digits : Int) else digitsValue digits)
    else none

/-- Digits, an optional point and further digits, and an exponent. One digit at least is needed. -/
def Literal.ofDecimal? (negative : Bool) (chars : List Char) : Option Literal :=
  let whole := chars.takeWhile isDecimalDigit
  let afterWhole := chars.dropWhile isDecimalDigit
  let (fraction, rest) :=
    match afterWhole with
    | '.' :: tail => (tail.takeWhile isDecimalDigit, tail.dropWhile isDecimalDigit)
    | _ => ([], afterWhole)
  if whole.isEmpty && fraction.isEmpty then none
  else
    (exponent? rest).map fun exponent =>
      .decimal negative (digitsValue (whole ++ fraction)) (exponent - fraction.length)

/-- The literal that the characters write, with nothing around it. -/
def Literal.ofChars? (chars : List Char) : Option Literal :=
  let (negative, body) := splitSign chars
  (Literal.ofWord? negative body).or (Literal.ofDecimal? negative body)

/-- The characters write a number literal, the misspelled words included. -/
def isLiteral (token : String) : Bool := (Literal.ofChars? token.toList).isSome

/-- The number nearest to plus or minus `coefficient * 10 ^ exponent`. Exponents so far out that the
result is infinite or zero are not worked out. -/
def nearestDecimal (negative : Bool) (coefficient : Nat) (exponent : Int) : Float :=
  let width : Int := (coefficient.log2 + 1 : Nat)
  if coefficient = 0 then nearest negative 0 1
  else if 310 < exponent then infinity negative
  else if exponent < -(326 + width) then nearest negative 0 1
  else
    nearest negative (coefficient * Nat.pow 10 exponent.toNat) (Nat.pow 10 (-exponent).toNat)

/-- The number that a literal stands for. A misspelled word stands for none. -/
def Literal.value? : Literal → Option Float
  | .decimal negative coefficient exponent => some (nearestDecimal negative coefficient exponent)
  | .infinite negative => some (infinity negative)
  | .undefined => some notANumber
  | .misspelled => none

/-- Why a token is no number. -/
inductive LiteralFault
  /-- The token, blanks around it removed, is no number literal. -/
  | malformed (token : String)
  /-- The trimmed text is one of the words, misspelled. -/
  | misspelled (text : String)
deriving DecidableEq, Repr

/-- The fault in words. -/
def LiteralFault.message : LiteralFault → String
  | .malformed token => s!"not a number: '{token}'"
  | .misspelled text => s!"could not convert string to float: {quoted text}"

/-- The number that a token writes, blanks around it allowed. -/
def readNumber (token : String) : Except LiteralFault Float :=
  let text := trim token
  match Literal.ofChars? text.toList with
  | none => .error (.malformed token)
  | some literal =>
    match literal.value? with
    | none => .error (.misspelled text)
    | some value => .ok value

end UnitConversion.Numeric

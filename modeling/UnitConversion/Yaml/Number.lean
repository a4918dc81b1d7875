import UnitConversion.Numeric.Literal
import UnitConversion.Text.Case
import UnitConversion.Text.Split
import UnitConversion.Yaml.Fault

/-!
# Numbers in YAML

Which texts without marks are integers and which are floating-point numbers, and the values of both.
Underscores may stand between digits and mean nothing; parts between colons count in base sixty.
-/

namespace UnitConversion.Yaml

open Numeric Text

/-- All characters have a property, and there is at least one. -/
def allOf (property : Char → Bool) (chars : List Char) : Bool :=
  !chars.isEmpty && chars.all property

/-- A decimal digit of ASCII or an underscore. -/
def isNumeral (c : Char) : Bool := c.isDigit || c = '_'

/-- A digit in base two or an underscore. -/
def isBinary (c : Char) : Bool := c = '0' || c = '1' || c = '_'

/-- A digit in base eight or an underscore. -/
def isOctal (c : Char) : Bool := '0' ≤ c && c ≤ '7' || c = '_'

/-- A digit in base sixteen. -/
def isHexDigit (c : Char) : Bool := c.isDigit || 'a' ≤ c && c ≤ 'f' || 'A' ≤ c && c ≤ 'F'

/-- A part in base sixty: one digit, or two of which the first is at most five. -/
def isSixtieth : List Char → Bool
  | [digit] => digit.isDigit
  | [tens, digit] => '0' ≤ tens && tens ≤ '5' && digit.isDigit
  | _ => false

/-- The characters without a sign at the front. -/
def unsigned (chars : List Char) : List Char := (splitSign chars).2

/-- A text without marks is an integer. -/
def looksInteger (chars : List Char) : Bool :=
  match unsigned chars with
  | '0' :: rest =>
    match rest with
    | [] => true
    | 'b' :: digits => allOf isBinary digits
    | 'x' :: digits => allOf (fun c => isHexDigit c || c = '_') digits
    | digits => allOf isOctal digits
  | first :: rest =>
    first.isDigit &&
      match splitAtChar ':' rest with
      | head :: parts => head.all isNumeral && parts.all isSixtieth
      | [] => false
  | [] => false

/-- Nothing, or a letter e, a sign and digits. -/
def isSignedExponent : List Char → Bool
  | [] => true
  | letter :: sign :: digits =>
    (letter = 'e' || letter = 'E') && (sign = '+' || sign = '-') && allOf Char.isDigit digits
  | _ => false

/-- What follows a point: digits and an exponent. -/
def isFraction (chars : List Char) : Bool := isSignedExponent (chars.dropWhile isNumeral)

/-- The last part of a number in base sixty: the part, a point and digits. -/
def isPointedSixtieth (chars : List Char) : Bool :=
  isSixtieth (chars.takeWhile (· ≠ '.')) &&
    match chars.dropWhile (· ≠ '.') with
    | _ :: digits => digits.all isNumeral
    | [] => false

/-- A text without marks is a floating-point number. -/
def looksFloat (chars : List Char) : Bool :=
  let body := unsigned chars
  match body with
  | '.' :: rest =>
    ["inf", "Inf", "INF"].contains (String.ofList rest) ||
      (body.length == chars.length &&
        (["nan", "NaN", "NAN"].contains (String.ofList rest) ||
          (rest.head?.any Char.isDigit && isFraction rest)))
  | first :: _ =>
    first.isDigit &&
      match body.dropWhile isNumeral with
      | '.' :: rest => isFraction rest
      | ':' :: rest =>
        let parts := splitAtChar ':' rest
        parts.dropLast.all isSixtieth && parts.getLast?.any isPointedSixtieth
      | _ => false
  | [] => false

/-- The value of a digit in bases up to sixteen. -/
def digitIn? (base : Nat) (c : Char) : Option Nat :=
  let value :=
    if 'a' ≤ c ∧ c ≤ 'f' then some (c.toNat - 87)
    else if 'A' ≤ c ∧ c ≤ 'F' then some (c.toNat - 55)
    else digitValue? c
  value.filter (· < base)

/-- The letter that may stand between a zero and the digits of a base. -/
def baseLetters (base : Nat) : List Char :=
  if base = 2 then ['b', 'B'] else if base = 8 then ['o', 'O'] else if base = 16 then ['x', 'X']
  else []

/-- Remove a zero and the letter of the base. -/
def dropBaseMark (base : Nat) : List Char → List Char
  | '0' :: letter :: rest =>
    if (baseLetters base).contains letter then rest else '0' :: letter :: rest
  | chars => chars

/-- An integer in a base, blanks around it allowed. Only in base ten the digits are limited. -/
def readBased (base : Nat) (chars : List Char) : Except ValueFault Int := do
  let (negative, body) := splitSign (stripChars isIntegerBlank chars)
  let digits := dropBaseMark base body
  if !allOf (fun c => (digitIn? base c).isSome) digits then
    throw (.notInteger base (String.ofList chars))
  if base = 10 then
    let _ ← (natOfDigits digitLimit digits).mapError ValueFault.tooManyDigits
  let magnitude := digits.foldl (fun value c => base * value + (digitIn? base c).getD 0) 0
  return if negative then -(magnitude : Int) else magnitude

/-- The integer that a text marked as one stands for. -/
def readInteger (text : String) : Except ValueFault Int := do
  let chars := text.toList.filter (· ≠ '_')
  let magnitude ← match unsigned chars with
    | [] => throw .emptyNumber
    | ['0'] => pure 0
    | '0' :: 'b' :: digits => readBased 2 digits
    | '0' :: 'x' :: digits => readBased 16 digits
    | '0' :: digits => readBased 8 ('0' :: digits)
    | body => do
      let parts ← (splitAtChar ':' body).mapM (readBased 10)
      pure (parts.foldl (fun value part => 60 * value + part) 0)
  return if (splitSign chars).1 then -magnitude else magnitude

/-- A floating-point number, blanks around it allowed. -/
def readDecimal (chars : List Char) : Except ValueFault Float :=
  match (Literal.ofChars? (stripChars isIntegerBlank chars)).bind Literal.value? with
  | some value => .ok value
  | none => .error (.notNumber (String.ofList chars))

/-- The sum of the parts of a number in base sixty, the last part first. The weights are whole
numbers until a part is multiplied; one of them may be too large for that. -/
def sumSixtieths (value : Float) (weight : Nat) : List Float → Except ValueFault Float
  | [] => .ok value
  | part :: rest =>
    let factor := nearest false weight 1
    if factor.isInf then .error .hugeWeight
    else sumSixtieths (value + part * factor) (60 * weight) rest

/-- The characters of a floating-point number that mean anything, in lower case. -/
def floatChars (text : String) : List Char :=
  (lower (String.ofList (text.toList.filter (· ≠ '_')))).toList

/-- The text is the word for no number. -/
def isUndefinedWord (text : String) : Bool := unsigned (floatChars text) == ".nan".toList

/-- The floating-point number that a text marked as one stands for. -/
def readFloat (text : String) : Except ValueFault Float := do
  let chars := floatChars text
  let body := unsigned chars
  if chars.isEmpty then throw .emptyNumber
  if isUndefinedWord text then return notANumber
  let magnitude ←
    if body = ".inf".toList then pure (infinity false)
    else if body.contains ':' then do
      let parts ← (splitAtChar ':' body).mapM readDecimal
      sumSixtieths 0.0 1 parts.reverse
    else readDecimal body
  return if (splitSign chars).1 then -magnitude else magnitude

end UnitConversion.Yaml

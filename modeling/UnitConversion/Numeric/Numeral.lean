import UnitConversion.Numeric.Digits

/-!
# Numerals

How a number is written: its digits with a point among them when the exponent is moderate, and with
an exponent behind them otherwise.
-/

namespace UnitConversion.Numeric

/-- The decisions of one way of writing numbers. -/
structure NumeralStyle where
  /-- The least exponent of the first digit that is written behind the digits. -/
  firstLarge : Int
  /-- A whole number in positional form ends in a point and a zero. -/
  wholePoint : Bool
deriving DecidableEq, Repr

/-- The least exponent of the first digit that is written positionally. -/
def leastPositional : Int := -4

/-- A row of digits as text. -/
def digitsText (digits : List Nat) : String := String.ofList (digits.map Nat.digitChar)

/-- An exponent with its sign and at least two digits. -/
def exponentText (exponent : Int) : String :=
  let digits := toString exponent.natAbs
  (if exponent < 0 then "e-" else "e+") ++ (if digits.length < 2 then "0" ++ digits else digits)

/-- The digits with a point among them. -/
def positionalText (style : NumeralStyle) (value : Significand) : String :=
  if value.exponent < 0 then
    "0." ++ digitsText (List.replicate ((-value.exponent).toNat - 1) 0 ++ value.digits)
  else
    let width := value.exponent.toNat + 1
    let whole := digitsText (value.digits.take width) ++
      digitsText (List.replicate (width - value.digits.length) 0)
    match value.digits.drop width with
    | [] => if style.wholePoint then whole ++ ".0" else whole
    | rest => whole ++ "." ++ digitsText rest

/-- The digits with an exponent behind them. -/
def exponentialText (value : Significand) : String :=
  match value.digits with
  | [] => exponentText value.exponent
  | [first] => digitsText [first] ++ exponentText value.exponent
  | first :: rest => digitsText [first] ++ "." ++ digitsText rest ++ exponentText value.exponent

/-- The digits in the form that the exponent asks for. -/
def NumeralStyle.render (style : NumeralStyle) (value : Significand) : String :=
  if leastPositional ≤ value.exponent ∧ value.exponent < style.firstLarge then
    positionalText style value
  else exponentialText value

/-- A number in the given style, its digits found by `choose` from the exact magnitude. -/
def NumeralStyle.text (style : NumeralStyle) (choose : Nat → Nat → Significand) (x : Float) :
    String :=
  match dyadic? x with
  | some value =>
    let (numerator, denominator) := scaleBinary value.mantissa 1 value.exponent
    let digits :=
      if value.mantissa = 0 then ⟨[0], 0⟩ else (choose numerator denominator).trimZeros
    (if value.negative then "-" else "") ++ style.render digits
  | none => if x.isNaN then "nan" else if isNegative x then "-inf" else "inf"

/-- A number with at most `count` significant digits, without zeros at the end. -/
def roundedText (count : Nat) (x : Float) : String :=
  NumeralStyle.text ⟨count, false⟩ (significand count) x

/-- A number with the fewest digits that read back as it, recognizable as no integer. -/
def shortestText (x : Float) : String :=
  NumeralStyle.text ⟨16, true⟩ shortest x

end UnitConversion.Numeric

import UnitConversion.Numeric.Numeral
import UnitConversion.Settings.Moment
import UnitConversion.Text.Integer
import UnitConversion.Text.Quoted

/-!
# Settings data

The values that a settings file can hold, and how messages show them.
-/

namespace UnitConversion

open Text

/-- A value in a settings file. -/
inductive Datum
  | null
  | bool (value : Bool)
  | int (value : Int)
  | float (value : Float)
  /-- A number that is none and that only equals itself. It is told apart by where it is from. -/
  | undefined (origin : Nat)
  | text (value : String)
  | bytes (value : List UInt8)
  | date (year month day : Nat)
  | moment (value : Moment)
  | list (items : List Datum)
  | pair (first second : Datum)
  | mapping (entries : List (Datum × Datum))
  | set (items : List Datum)
  /-- A list or a mapping that the value is itself part of. -/
  | enclosing (isList : Bool)

namespace Datum

/-- What messages call the kind of value. -/
def kind : Datum → String
  | null => "NoneType"
  | bool _ => "bool"
  | int _ => "int"
  | float _ => "float"
  | undefined _ => "float"
  | text _ => "str"
  | bytes _ => "bytes"
  | date _ _ _ => "date"
  | moment _ => "datetime"
  | list _ => "list"
  | pair _ _ => "tuple"
  | mapping _ => "dict"
  | set _ => "set"
  | enclosing isList => if isList then "list" else "dict"

/-- An integer as digits, unless there are too many. -/
def printInteger (value : Int) : Except TooManyDigits String :=
  let count := (Nat.toDigits 10 value.natAbs).length
  match digitLimit with
  | some limit => if count ≤ limit then .ok (toString value) else .error ⟨limit, count⟩
  | none => .ok (toString value)

mutual

/-- A value as messages show it. -/
def render : Datum → Except TooManyDigits String
  | null => .ok "None"
  | bool value => .ok (if value then "True" else "False")
  | int value => printInteger value
  | float value => .ok (Numeric.shortestText value)
  | undefined _ => .ok (Numeric.shortestText Numeric.notANumber)
  | text value => .ok (quoted value)
  | bytes value => .ok (quotedBytes value)
  | date year month day => .ok s!"datetime.date({year}, {month}, {day})"
  | moment value => .ok value.render
  | list items => return "[" ++ ", ".intercalate (← renderItems items) ++ "]"
  | pair first second => return "(" ++ (← render first) ++ ", " ++ (← render second) ++ ")"
  | mapping entries => return "\x7b" ++ ", ".intercalate (← renderEntries entries) ++ "\x7d"
  | set items =>
    if items.isEmpty then .ok "set()"
    else return "\x7b" ++ ", ".intercalate (← renderItems items) ++ "\x7d"
  | enclosing isList => .ok (if isList then "[...]" else "\x7b...\x7d")

/-- The items of a list as messages show them. -/
def renderItems : List Datum → Except TooManyDigits (List String)
  | [] => .ok []
  | item :: rest => return (← render item) :: (← renderItems rest)

/-- The entries of a mapping as messages show them. -/
def renderEntries : List (Datum × Datum) → Except TooManyDigits (List String)
  | [] => .ok []
  | (key, value) :: rest =>
    return ((← render key) ++ ": " ++ (← render value)) :: (← renderEntries rest)

end

/-- A value as messages show it when it stands alone: texts without quotes, times in their standard
form. -/
def plain : Datum → Except TooManyDigits String
  | text value => .ok value
  | date year month day => .ok (Moment.dateText year month day)
  | moment value => .ok value.text
  | other => other.render

/-- The number that a truth value, an integer or a finite number is, as a fraction of integers. -/
def fraction? : Datum → Option (Int × Nat)
  | bool value => some (if value then 1 else 0, 1)
  | int value => some (value, 1)
  | float value =>
    (Numeric.dyadic? value).map fun exact =>
      let (numerator, denominator) := Numeric.scaleBinary exact.mantissa 1 exact.exponent
      (if exact.negative then -(numerator : Int) else numerator, denominator)
  | _ => none

/-- Two values are one key of a mapping. Numbers are compared by value, whatever their kind, and
points in time with a known distance from universal time by what they are there. -/
def sameKey (left right : Datum) : Bool :=
  match fraction? left, fraction? right with
  | some (numerator, denominator), some (numerator', denominator') =>
    numerator * denominator' == numerator' * denominator
  | some _, none => false
  | none, some _ => false
  | none, none =>
    match left, right with
    | null, null => true
    | float x, float y => Numeric.shortestText x == Numeric.shortestText y
    | undefined x, undefined y => x == y
    | text x, text y => x == y
    | bytes x, bytes y => x == y
    | date y m d, date y' m' d' => y == y' && m == m' && d == d'
    | moment x, moment y => x.sameAs y
    | _, _ => false

/-- A mapping with an entry put in: in its old place if the key is there, else at the end. -/
def putEntry {α : Type} (entries : List (Datum × α)) (key : Datum) (value : α) :
    List (Datum × α) :=
  match entries with
  | [] => [(key, value)]
  | (old, oldValue) :: rest =>
    if sameKey old key then (old, value) :: rest else (old, oldValue) :: putEntry rest key value

/-- The value of a text key. -/
def field? {α : Type} (entries : List (Datum × α)) (name : String) : Option α :=
  (entries.find? fun entry => sameKey entry.1 (.text name)).map (·.2)

end Datum

end UnitConversion

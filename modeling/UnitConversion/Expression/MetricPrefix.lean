/-!
# Metric prefixes

The twenty metric prefixes with the letter that each is written as and the factor that it stands
for.
-/

namespace UnitConversion

/-- A metric prefix. -/
inductive MetricPrefix
  | yotta | zetta | exa | peta | tera | giga | mega | kilo | hecto | deca
  | deci | centi | milli | micro | nano | pico | femto | atto | zepto | yocto
deriving DecidableEq, Repr

namespace MetricPrefix

/-- All prefixes, from the largest to the smallest. -/
def all : List MetricPrefix :=
  [yotta, zetta, exa, peta, tera, giga, mega, kilo, hecto, deca,
   deci, centi, milli, micro, nano, pico, femto, atto, zepto, yocto]

/-- The letter that the prefix is written as. -/
def letter : MetricPrefix → Char
  | yotta => 'Y' | zetta => 'Z' | exa => 'E' | peta => 'P' | tera => 'T'
  | giga => 'G' | mega => 'M' | kilo => 'k' | hecto => 'h' | deca => 'D'
  | deci => 'd' | centi => 'c' | milli => 'm' | micro => 'u' | nano => 'n'
  | pico => 'p' | femto => 'f' | atto => 'a' | zepto => 'z' | yocto => 'y'

/-- The factor that the prefix stands for. -/
def multiplier : MetricPrefix → Float
  | yotta => 1e24 | zetta => 1e21 | exa => 1e18 | peta => 1e15 | tera => 1e12
  | giga => 1e9 | mega => 1e6 | kilo => 1e3 | hecto => 1e2 | deca => 1e1
  | deci => 1e-1 | centi => 1e-2 | milli => 1e-3 | micro => 1e-6 | nano => 1e-9
  | pico => 1e-12 | femto => 1e-15 | atto => 1e-18 | zepto => 1e-21 | yocto => 1e-24

/-- The prefix that is written as the given letter. -/
def ofLetter? (c : Char) : Option MetricPrefix := all.find? (·.letter == c)

/-- The prefix that is written as the given text. -/
def ofText? (text : String) : Option MetricPrefix :=
  match text.toList with
  | [c] => ofLetter? c
  | _ => none

/-- The prefix as text. -/
def text (metric : MetricPrefix) : String := String.singleton metric.letter

/-- Each prefix is found by its letter. -/
theorem ofLetter?_letter (metric : MetricPrefix) : ofLetter? metric.letter = some metric := by
  cases metric <;> rfl

/-- A prefix that is found is written as the letter asked for. -/
theorem letter_of_ofLetter? {c : Char} {metric : MetricPrefix} (h : ofLetter? c = some metric) :
    metric.letter = c := by
  simpa using List.find?_some h

end MetricPrefix

end UnitConversion

import UnitConversion.Yaml.Timestamp

/-!
# What can be wrong with a YAML text

Either the text is not well-formed, or one of its scalars has a value that does not exist.
-/

namespace UnitConversion.Yaml

open Text

/-- Why a scalar has no value. -/
inductive ValueFault
  /-- An escape gives a number past the last character. -/
  | noCharacter
  /-- An escape gives a number that is too large even to be looked at. -/
  | hugeCharacter
  /-- A word that was marked as a truth value is none. -/
  | notTruth (word : String)
  /-- A text that was marked as a number is empty. -/
  | emptyNumber
  /-- A text is no integer in the given base. -/
  | notInteger (base : Nat) (text : String)
  /-- A text is no number. -/
  | notNumber (text : String)
  /-- A part of a number in base sixty has too large a weight. -/
  | hugeWeight
  /-- An integer has too many digits. -/
  | tooManyDigits (refusal : TooManyDigits)
  /-- A text that was marked as a timestamp is none. -/
  | notTimestamp
  /-- A mapping that stands for a text was marked as a timestamp. -/
  | timestampNotText
  /-- A timestamp does not exist. -/
  | calendar (fault : CalendarFault)
deriving DecidableEq, Repr

/-- The fault in words. -/
def ValueFault.message : ValueFault → String
  | noCharacter => "chr() arg not in range(0x110000)"
  | hugeCharacter => "Python int too large to convert to C int"
  | notTruth word => word
  | emptyNumber => "string index out of range"
  | notInteger base text => s!"invalid literal for int() with base {base}: {quoted text}"
  | notNumber text => s!"could not convert string to float: {quoted text}"
  | hugeWeight => "int too large to convert to float"
  | tooManyDigits refusal => refusal.message
  | notTimestamp => "'NoneType' object has no attribute 'groupdict'"
  | timestampNotText => "expected string or bytes-like object, got 'list'"
  | calendar fault => fault.message

/-- Why a YAML text has no data. -/
inductive Fault
  /-- The text is not well-formed, or holds marks that mean nothing here. -/
  | malformed
  /-- The text is well-formed, and one of its scalars has no value. -/
  | value (fault : ValueFault)
deriving DecidableEq, Repr

end UnitConversion.Yaml

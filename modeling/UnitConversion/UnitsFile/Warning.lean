import UnitConversion.Line
import UnitConversion.UnitsFile.Setting

/-!
# Warnings about a units file

What can be wrong with a units file. A problem never stops the reading; it is reported with the
number of the line that it is about.
-/

namespace UnitConversion.UnitsFile

/-- Something wrong in a units file. -/
inductive Problem
  /-- The line ends inside an escape. -/
  | dangling (failure : DanglingEscape)
  /-- The line is neither a header nor sets a field. -/
  | unrecognized (line : String)
  /-- The line starts like a header and is none. -/
  | malformedHeader
  /-- The header names nothing. -/
  | namelessHeader
  /-- A delimiter stands where none may stand. -/
  | unexpected (delimiter : String)
  /-- A field is set before the first header or after a broken one. -/
  | outsideDeclaration (key : String)
  /-- The key sets no field. -/
  | unknownKey (key unit : String)
  /-- The field is set already. -/
  | alreadySet (key unit : String)
  /-- The value of the field is refused. -/
  | refused (unit : String) (fault : ValueFault)
  /-- Required fields are not set. -/
  | missing (unit : String) (fields : List Field)
  /-- A name is given twice. -/
  | repeatedName (unit name : String)
  /-- The description describes no unit. -/
  | defective (unit : String) (defect : UnitDefect)
  /-- Names belong to earlier units. -/
  | namesTaken (unit : String) (names : List String)
  /-- All names belong to earlier units. -/
  | noNamesLeft (unit : String)

/-- The problem in words. -/
def Problem.message : Problem → String
  | dangling failure => s!"syntax error, {failure.message}"
  | unrecognized line =>
    s!"syntax error, expected '[unit name]' or 'key = value': '{Text.trim line}'"
  | malformedHeader => "syntax error in unit header, expected '[unit name]'"
  | namelessHeader => "unit header without a name"
  | unexpected delimiter => s!"syntax error, unexpected '{delimiter}'"
  | outsideDeclaration key => s!"'{key}' outside of a unit declaration, ignored"
  | unknownKey key unit => s!"unknown key '{key}' in [{unit}], ignored"
  | alreadySet key unit => s!"duplicate '{key}' in [{unit}], keeping the first"
  | refused unit fault => s!"[{unit}] {fault.message}"
  | missing unit fields =>
    s!"[{unit}] missing " ++ ", ".intercalate (fields.map Field.name) ++ ", unit discarded"
  | repeatedName unit name => s!"[{unit}] repeats the name '{name}'"
  | defective unit defect => s!"[{unit}] {defect.message}, unit discarded"
  | namesTaken unit names =>
    s!"[{unit}] name(s) already defined: " ++ ", ".intercalate names
  | noNamesLeft unit => s!"[{unit}] has no names left, unit discarded"

/-- A problem and the line that it is about. -/
structure Warning where
  /-- The number of the line, counted from one. -/
  line : Nat
  /-- What is wrong. -/
  problem : Problem

/-- The warning in words, without the line. -/
def Warning.message (warning : Warning) : String := warning.problem.message

/-- The warning in words. -/
def Warning.text (warning : Warning) : String := s!"line {warning.line}: {warning.message}"

end UnitConversion.UnitsFile

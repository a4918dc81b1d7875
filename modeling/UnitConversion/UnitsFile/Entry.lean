import UnitConversion.Text.Case
import UnitConversion.UnitsFile.Warning

/-!
# Entries of a units file

What one line of a units file says on its own, before what is known from the lines above it.
-/

namespace UnitConversion.UnitsFile

/-- What a line says. -/
inductive Entry
  /-- Nothing. -/
  | blank
  /-- Nothing that can be read, without a bearing on the open declaration. -/
  | faulty (problem : Problem)
  /-- A header that starts no declaration. -/
  | brokenHeader (problem : Problem)
  /-- A header with the primary name of a unit. -/
  | header (name : String)
  /-- A key and the values for its field. -/
  | assignment (key : String) (values : List String)

/-- The characters that have a meaning in a units file. -/
def isDelimiter (c : Char) : Bool := c = '[' || c = ']' || c = '=' || c = ','

/-- The entry of a line that starts like a header. -/
def Entry.ofHeader : List Token → Entry
  | [_, _, name, close, last] =>
    if !name.isDelimiter && close.text == "]" && last.isBlank then
      if (Text.trim name.text).isEmpty then .brokenHeader .namelessHeader
      else .header (Text.trim name.text)
    else .brokenHeader .malformedHeader
  | _ => .brokenHeader .malformedHeader

/-- The entry of a line with the given text before an equals sign and the given tokens after it. -/
def Entry.ofAssignment (keyText : String) (rest : List Token) : Entry :=
  let key := Text.lower (Text.trim keyText)
  match rest.find? fun token => token.isDelimiter && token.text != "," with
  | some stray => .faulty (.unexpected stray.text)
  | none =>
    if key.isEmpty then .faulty (.unexpected "=")
    else
      .assignment key
        ((rest.filter fun token => !token.isDelimiter).map fun token => Text.trim token.text)

/-- The entry that the tokens of a line make. -/
def Entry.ofTokens (line : String) : List Token → Entry
  | first :: second :: rest =>
    if first.isBlank && second.text == "[" then .ofHeader (first :: second :: rest)
    else if second.text == "=" then .ofAssignment first.text rest
    else .faulty (.unrecognized line)
  | [only] => if only.isBlank then .blank else .faulty (.unrecognized line)
  | [] => .faulty (.unrecognized line)

/-- The entry on a line. -/
def Entry.ofLine (line : String) : Entry :=
  match Line.tokenize isDelimiter false line with
  | .error failure => .faulty (.dangling failure)
  | .ok tokens => .ofTokens line tokens

end UnitConversion.UnitsFile

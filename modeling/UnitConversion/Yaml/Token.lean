import UnitConversion.Yaml.Property

/-!
# Tokens

The pieces that a YAML text is cut into. Indentation shows as tokens that start and end blocks, and
a key is announced by a token in front of it, even where the text has nothing there.
-/

namespace UnitConversion.Yaml

/-- A piece of a YAML text. -/
inductive Token
  | directive (directive : Directive)
  | documentStart
  | documentEnd
  | blockSequenceStart
  | blockMappingStart
  | blockEnd
  | flowSequenceStart
  | flowSequenceEnd
  | flowMappingStart
  | flowMappingEnd
  | blockEntry
  | flowEntry
  /-- A key follows. -/
  | key
  /-- The value of a key follows. -/
  | value
  | aliasMark (name : String)
  | anchor (name : String)
  | tag (tag : WrittenTag)
  /-- A scalar, and whether it is without marks. -/
  | scalar (text : String) (plain : Bool)
  /-- The text cannot be cut any further. -/
  | broken (fault : Fault)
deriving DecidableEq, Repr

end UnitConversion.Yaml

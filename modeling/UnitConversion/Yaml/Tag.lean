import UnitConversion.Yaml.Number

/-!
# Kinds of YAML nodes

Each node of a YAML text has a tag, which says what kind of value it is. A tag is written out, or it
follows from the node: a scalar without marks is taken for what it looks like.
-/

namespace UnitConversion.Yaml

/-- The kind of a node. -/
inductive Tag
  | null | bool | int | float | binary | timestamp | text
  | list | mapping | set | pairs
  /-- The key of entries that are taken over from other mappings. -/
  | merge
  /-- The key of the scalar that stands for a mapping. -/
  | defaultValue
  /-- A kind that is not known here. -/
  | unknown
deriving DecidableEq, Repr

namespace Tag

/-- What the tags of the standard start with. -/
def standardStart : String := "tag:yaml.org,2002:"

/-- The names of the standard tags. -/
def standardNames : List (String × Tag) :=
  [("null", null), ("bool", bool), ("int", int), ("float", float), ("binary", binary),
   ("timestamp", timestamp), ("omap", pairs), ("pairs", pairs), ("set", set), ("str", text),
   ("seq", list), ("map", mapping), ("merge", merge), ("value", defaultValue)]

/-- The tag that is written out in full. -/
def ofFullName (name : String) : Tag :=
  ((standardNames.find? fun entry => standardStart ++ entry.1 == name).map (·.2)).getD unknown

/-- A word in small letters, in capitals, or with a capital letter at its start. -/
def isSpelling (word : String) (chars : List Char) : Bool :=
  let letters := word.toList
  chars == letters || chars == letters.map Char.toUpper ||
    chars == (letters.take 1).map Char.toUpper ++ letters.drop 1

/-- The words for truth values, with their meaning. -/
def truthWords : List (String × Bool) :=
  [("yes", true), ("no", false), ("true", true), ("false", false), ("on", true), ("off", false)]

/-- A text without marks is a truth value. -/
def looksTruth (chars : List Char) : Bool := truthWords.any fun entry => isSpelling entry.1 chars

/-- A text without marks stands for nothing. -/
def looksNull (chars : List Char) : Bool :=
  chars.isEmpty || chars == ['~'] || isSpelling "null" chars

/-- Remove one line feed at the end. -/
def dropFinalFeed (chars : List Char) : List Char :=
  if chars.getLast? = some '\n' then chars.dropLast else chars

/-- The tag of a scalar without marks. A line feed at its end does not matter, unless there is
nothing else. -/
def ofPlain (text : String) : Tag :=
  let chars := dropFinalFeed text.toList
  if text = "\n" then Tag.text
  else if looksTruth chars then bool
  else if looksFloat chars then float
  else if looksInteger chars then int
  else if chars = ['<', '<'] then merge
  else if looksNull chars then null
  else if looksTimestamp chars then timestamp
  else if chars = ['='] then defaultValue
  else Tag.text

end Tag

end UnitConversion.Yaml

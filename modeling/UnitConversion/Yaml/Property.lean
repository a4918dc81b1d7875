import UnitConversion.Text.Utf8
import UnitConversion.Yaml.Cursor
import UnitConversion.Yaml.Number

/-!
# Anchors, tags and directives

The marks in front of a node, and the lines in front of a document that say how to read them.
-/

namespace UnitConversion.Yaml

open Text

/-- A letter or digit of ASCII, a hyphen or an underscore. -/
def isNameChar (c : Char) : Bool := c.isAlphanum || c = '-' || c = '_'

/-- A character of a tag that is no escape. -/
def isTagChar (c : Char) : Bool := c.isAlphanum || "-;/?:@&=+$,_.!~*'()[]".toList.contains c

/-- A tag as it is written: a handle that stands for its start, if there is one, and the rest. -/
structure WrittenTag where
  /-- The handle. -/
  handle : Option String
  /-- What follows the handle. -/
  ending : String
deriving DecidableEq, Repr

/-- A line that says how to read a document. -/
inductive Directive
  /-- The version of the language, its first number only. -/
  | version (major : Nat)
  /-- What a handle of tags stands for. -/
  | tagHandle (handle start : String)
  /-- A line without meaning. -/
  | unknown
deriving DecidableEq, Repr

namespace Scan

/-- The name of an anchor. -/
def anchorName : Scan String := do
  let name ← takeWhile isNameChar
  if name.isEmpty then refuse
  let following ← rest
  let mayFollow := fun c => "?:,]%@`".toList.contains c || c = '\x7d'
  if atWordEnd following || following.head?.any mayFollow then return String.ofList name
  refuse

/-- A number of digits in base sixteen. -/
def hexNumber (width : Nat) : Scan Nat := do
  let digits := (← rest).take width
  if digits.length < width || !digits.all isHexDigit then refuse
  skip width
  return digits.foldl (fun value c => 16 * value + (digitIn? 16 c).getD 0) 0

/-- The bytes of a row of escapes, each a percent sign and two digits. -/
def escapedBytes : Nat → Scan (List UInt8)
  | 0 => return []
  | fuel + 1 => do
    if (← optional (· = '%')).isNone then return []
    let byte ← hexNumber 2
    return UInt8.ofNat byte :: (← escapedBytes fuel)

/-- The characters of a tag. -/
def tagChars : Nat → Scan (List Char)
  | 0 => return []
  | fuel + 1 => do
    let chars ← takeWhile isTagChar
    if (← rest).head? = some '%' then
      let decoded := decode false (← escapedBytes fuel)
      if decoded.failure.isSome then refuse
      return chars ++ decoded.chars ++ (← tagChars fuel)
    return chars

/-- A tag, or the end of one. There is at least one character, which an escape may write. -/
def tagText : Scan String := do
  let before ← rest
  let chars ← tagChars before.length
  if (← rest).length = before.length then refuse
  return String.ofList chars

/-- A handle of tags: an exclamation mark alone, or a name between two. -/
def tagHandle : Scan String := do
  if (← optional (· = '!')).isNone then refuse
  if (← rest).head? = some ' ' then return "!"
  let name ← takeWhile isNameChar
  if (← optional (· = '!')).isNone then refuse
  return "!" ++ String.ofList name ++ "!"

/-- A tag between angle brackets, after the first one. -/
def verbatimTag : Scan WrittenTag := do
  let ending ← tagText
  if (← optional (· = '>')).isNone then refuse
  return ⟨none, ending⟩

/-- A tag with a handle. -/
def shorthandTag : Scan WrittenTag := do
  let word := ((← rest).drop 1).takeWhile fun c => !atSpace [c]
  let handle ← if word.contains '!' then tagHandle else do skip 1; pure "!"
  return ⟨some handle, ← tagText⟩

/-- A tag. -/
def tag : Scan WrittenTag := do
  let following := (← rest).drop 1
  let written ←
    if following.head? = some '<' then do skip 2; verbatimTag
    else if atWordEnd following then do skip 1; pure ⟨none, "!"⟩
    else shorthandTag
  if !atSpace (← rest) then refuse
  return written

/-- A number of a version. -/
def versionNumber : Scan Nat := do
  let digits ← takeWhile Char.isDigit
  if digits.isEmpty then refuse
  match natOfDigits digitLimit digits with
  | .ok number => return number
  | .error refusal => throw (.value (.tooManyDigits refusal))

/-- The version of the language. -/
def version : Scan Directive := do
  skipWhile (· = ' ')
  let major ← versionNumber
  if (← optional (· = '.')).isNone then refuse
  let _ ← versionNumber
  if !atSpace (← rest) then refuse
  return .version major

/-- A handle of tags and what it stands for. -/
def handleMeaning : Scan Directive := do
  skipWhile (· = ' ')
  let handle ← tagHandle
  if (← rest).head? ≠ some ' ' then refuse
  skipWhile (· = ' ')
  let start ← tagText
  if !atSpace (← rest) then refuse
  return .tagHandle handle start

/-- A directive, from its percent sign to the end of its line. -/
def directive : Scan Directive := do
  skip 1
  let name ← takeWhile isNameChar
  if name.isEmpty || !atSpace (← rest) then refuse
  let found ←
    if name = "YAML".toList then version
    else if name = "TAG".toList then handleMeaning
    else do
      skipWhile fun c => !isBreak c
      pure .unknown
  emptyLineEnd
  return found

end Scan

end UnitConversion.Yaml

import UnitConversion.Yaml.Fault

/-!
# Places in a YAML text

A cursor is a place in a text with its line and column. Scanning is a step from one place to a later
one; it gives what was passed over, or it fails. Carriage returns have been turned into line feeds
before.
-/

namespace UnitConversion.Yaml

/-- The character ends a line. -/
def isBreak (c : Char) : Bool :=
  c = '\n' || c.toNat = 0x85 || c.toNat = 0x2028 || c.toNat = 0x2029

/-- The mark for the order of bytes, which takes no column. -/
def isOrderMark (c : Char) : Bool := c.toNat = 0xfeff

/-- The character may stand in a YAML text. -/
def isAllowed (c : Char) : Bool :=
  c = '\t' || c = '\n' || ' ' ≤ c && c ≤ '~' || c.toNat = 0x85 ||
    0xa0 ≤ c.toNat && c.toNat ≤ 0xfffd || 0x10000 ≤ c.toNat

/-- Nothing, a blank or a break follows. -/
def atWordEnd : List Char → Bool
  | [] => true
  | c :: _ => isSpace c || isBreak c

/-- Nothing, a space or a break follows. -/
def atSpace : List Char → Bool
  | [] => true
  | c :: _ => c = ' ' || isBreak c

/-- Nothing or a break follows. -/
def atLineEnd : List Char → Bool
  | [] => true
  | c :: _ => isBreak c

/-- Three of the same character follow, and no word goes on after them. -/
def atTriple (mark : Char) (chars : List Char) : Bool :=
  chars.take 3 == [mark, mark, mark] && atWordEnd (chars.drop 3)

/-- The mark for the start or the end of a document follows. -/
def atDocumentMark (chars : List Char) : Bool := atTriple '-' chars || atTriple '.' chars

/-- A place in a text. -/
structure Cursor where
  /-- How many characters are before the place. -/
  index : Nat
  /-- How many lines are before the line of the place. -/
  line : Nat
  /-- How many characters are before the place on its line. -/
  column : Nat
  /-- The characters after the place. -/
  rest : List Char
deriving Repr

namespace Cursor

/-- The start of a text. -/
def start (chars : List Char) : Cursor := ⟨0, 0, 0, chars⟩

/-- The place after the next character. -/
def next (cursor : Cursor) : Cursor :=
  match cursor.rest with
  | [] => cursor
  | c :: rest =>
    if isBreak c then ⟨cursor.index + 1, cursor.line + 1, 0, rest⟩
    else if isOrderMark c then ⟨cursor.index + 1, cursor.line, cursor.column, rest⟩
    else ⟨cursor.index + 1, cursor.line, cursor.column + 1, rest⟩

/-- The place after a number of characters. -/
def skip (cursor : Cursor) : Nat → Cursor
  | 0 => cursor
  | count + 1 => cursor.next.skip count

end Cursor

/-- A step through a text. -/
abbrev Scan := StateT Cursor (Except Fault)

namespace Scan

/-- Fail: the text is not well-formed. -/
def refuse {α : Type} : Scan α := throw .malformed

/-- The characters that follow. -/
def rest : Scan (List Char) := do return (← get).rest

/-- The column. -/
def column : Scan Nat := do return (← get).column

/-- Pass over a number of characters. -/
def skip (count : Nat) : Scan Unit := modify (·.skip count)

/-- Pass over the characters up to the first without a property. -/
def takeWhile (property : Char → Bool) : Scan (List Char) := do
  let chars := (← rest).takeWhile property
  skip chars.length
  return chars

/-- Pass over the characters up to the first without a property, and forget them. -/
def skipWhile (property : Char → Bool) : Scan Unit := do
  let _ ← takeWhile property

/-- Pass over a character if it has a property. -/
def optional (property : Char → Bool) : Scan (Option Char) := do
  match (← rest).head?.filter property with
  | some c =>
    skip 1
    return some c
  | none => return none

/-- Pass over a line break, if one follows. The separators of lines and paragraphs stay what they
are; the other breaks are line feeds. -/
def lineBreak : Scan (List Char) := do
  match ← optional isBreak with
  | some c => return [if c.toNat = 0x85 then '\n' else c]
  | none => return []

/-- Pass over the rest of a line on which nothing but a comment may stand. -/
def emptyLineEnd : Scan Unit := do
  skipWhile (· = ' ')
  if (← rest).head? = some '#' then skipWhile fun c => !isBreak c
  if !atLineEnd (← rest) then refuse
  let _ ← lineBreak

/-- Pass over blanks, comments and breaks before a token. Tells whether there was a break. -/
def gap : Nat → Scan Bool
  | 0 => return false
  | fuel + 1 => do
    skipWhile (· = ' ')
    if (← rest).head? = some '#' then skipWhile fun c => !isBreak c
    if (← lineBreak).isEmpty then return false
    let _ ← gap fuel
    return true

end Scan

end UnitConversion.Yaml

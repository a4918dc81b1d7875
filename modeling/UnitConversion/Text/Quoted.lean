import UnitConversion.Text.Printable

/-!
# Quoted text

Messages quote a text so that every character of it can be read off: between apostrophes, or between
double quotes when the text holds an apostrophe and no double quote; the quote that is used and the
backslash with a backslash before them, and what is not printable by its number.
-/

namespace UnitConversion.Text

/-- The number in base sixteen, lower-case, with at least the given count of digits. -/
def hexPadded (width number : Nat) : List Char :=
  let digits := Nat.toDigits 16 number
  List.replicate (width - digits.length) '0' ++ digits

/-- One character of a text between the given quotes. -/
def quoteChar (quote c : Char) : List Char :=
  if c = quote ∨ c = '\\' then ['\\', c]
  else if c = '\t' then ['\\', 't']
  else if c = '\n' then ['\\', 'n']
  else if c = '\r' then ['\\', 'r']
  else if isPrintable c then [c]
  else if c.toNat < 0x100 then '\\' :: 'x' :: hexPadded 2 c.toNat
  else if c.toNat < 0x10000 then '\\' :: 'u' :: hexPadded 4 c.toNat
  else '\\' :: 'U' :: hexPadded 8 c.toNat

/-- The quote that stands around a text. -/
def quoteFor (chars : List Char) : Char :=
  if chars.contains '\x27' && !chars.contains '\x22' then '\x22' else '\x27'

/-- A text between quotes. -/
def quoted (text : String) : String :=
  let chars := text.toList
  let quote := quoteFor chars
  String.ofList (quote :: chars.flatMap (quoteChar quote) ++ [quote])

/-- A byte string between quotes: ASCII characters as they are, other bytes by their number. -/
def quotedBytes (bytes : List UInt8) : String :=
  let chars := bytes.map fun byte => Char.ofNat byte.toNat
  let quote := quoteFor chars
  let shown := chars.flatMap fun c =>
    if c.toNat < 0x80 then quoteChar quote c else '\\' :: 'x' :: hexPadded 2 c.toNat
  String.ofList ('b' :: quote :: shown ++ [quote])

end UnitConversion.Text

import UnitConversion.Yaml.Property

/-!
# Scalars between quotes and scalars without marks

Both may run over several lines, which are folded: a single line feed between two lines is a space,
and of several the first is dropped.
-/

namespace UnitConversion.Yaml

/-- The breaks between two lines of text: the first one and those after it. -/
def foldBreaks (first more : List Char) : List Char :=
  if first ≠ ['\n'] then first ++ more else if more.isEmpty then [' '] else more

/-- The characters that a backslash and one other character stand for. -/
def shortEscapes : List (Char × Nat) :=
  [('0', 0x0), ('a', 0x7), ('b', 0x8), ('t', 0x9), ('\t', 0x9), ('n', 0xa), ('v', 0xb), ('f', 0xc),
   ('r', 0xd), ('e', 0x1b), (' ', 0x20), ('"', 0x22), ('\\', 0x5c), ('/', 0x2f), ('N', 0x85),
   ('_', 0xa0), ('L', 0x2028), ('P', 0x2029)]

/-- How many digits in base sixteen follow a letter after a backslash. -/
def escapeWidth? : Char → Option Nat
  | 'x' => some 2
  | 'u' => some 4
  | 'U' => some 8
  | _ => none

/-- The characters that end a word inside brackets. -/
def flowMarks : List Char := [',', '[', ']', '\x7b', '\x7d']

/-- A word without marks stops before a character, which others follow. -/
def stopsWord (inFlow : Bool) (c : Char) (following : List Char) : Bool :=
  isSpace c || isBreak c ||
    (c = ':' && (atWordEnd following || (inFlow && following.head?.any flowMarks.contains))) ||
    (inFlow && (c = '?' || flowMarks.contains c))

/-- The word at the start of the characters. -/
def plainWord (inFlow : Bool) : List Char → List Char
  | [] => []
  | c :: rest => if stopsWord inFlow c rest then [] else c :: plainWord inFlow rest

/-- What lies between two words of a scalar without marks. -/
structure WordGap where
  /-- What the gap adds to the scalar. Nothing when the scalar ends before it. -/
  text : List Char
  /-- There is a break in the gap. -/
  broken : Bool

namespace Scan

/-- The breaks after a break, with blanks between them. Nothing when the document ends there. -/
def furtherBreaks (isFill : Char → Bool) : Nat → Scan (Option (List Char))
  | 0 => return some []
  | fuel + 1 => do
    if atDocumentMark (← rest) then return none
    skipWhile isFill
    let found ← lineBreak
    if found.isEmpty then return some []
    return (← furtherBreaks isFill fuel).map (found ++ ·)

/-- The breaks after a break between quotes. -/
def quotedBreaks (fuel : Nat) : Scan (List Char) := do
  match ← furtherBreaks isSpace fuel with
  | some breaks => return breaks
  | none => refuse

/-- Blanks between quotes: as they are inside a line, folded around breaks. -/
def quotedGap (fuel : Nat) : Scan (List Char) := do
  let blanks ← takeWhile isSpace
  let first ← lineBreak
  if first.isEmpty then return blanks
  return foldBreaks first (← quotedBreaks fuel)

/-- The character of a number. -/
def charOfCode (code : Nat) : Scan (List Char) := do
  if h : code.isValidChar then return [Char.ofNatAux code h]
  if code < 0x110000 then refuse
  throw (.value (if code < 0x80000000 then .noCharacter else .hugeCharacter))

/-- An escape, after its backslash. -/
def escape (fuel : Nat) : Scan (List Char) := do
  match ← optional fun _ => true with
  | none => refuse
  | some c =>
    match shortEscapes.lookup c, escapeWidth? c with
    | some code, _ => return [Char.ofNat code]
    | none, some width => charOfCode (← hexNumber width)
    | none, none => if isBreak c then quotedBreaks fuel else refuse

/-- A scalar between quotes, after the first quote. -/
def quotedRest (quote : Char) : Nat → Scan (List Char)
  | 0 => refuse
  | fuel + 1 => do
    match ← rest with
    | [] => refuse
    | c :: following =>
      if isSpace c || isBreak c then
        let blanks ← quotedGap fuel
        return blanks ++ (← quotedRest quote fuel)
      skip 1
      if c = quote then
        if c = '\x27' && following.head? = some c then
          skip 1
          return c :: (← quotedRest quote fuel)
        return []
      if c = '\\' && quote = '"' then
        let chars ← escape fuel
        return chars ++ (← quotedRest quote fuel)
      return c :: (← quotedRest quote fuel)

/-- A scalar between quotes. -/
def quotedScalar (quote : Char) : Scan String := do
  skip 1
  return String.ofList (← quotedRest quote ((← rest).length + 1))

/-- The gap after a word without marks. -/
def wordGap (fuel : Nat) : Scan WordGap := do
  let blanks ← takeWhile (· = ' ')
  let first ← lineBreak
  if first.isEmpty then return ⟨blanks, false⟩
  match ← furtherBreaks (· = ' ') fuel with
  | some more => return ⟨foldBreaks first more, true⟩
  | none => return ⟨[], true⟩

/-- The words of a scalar without marks, from a gap on. Outside brackets a word must not stand left
of a column. Tells whether the last gap had a break. -/
def plainWords (inFlow : Bool) (least : Nat) (gap : WordGap) : Nat → Scan (List Char × Bool)
  | 0 => return ([], gap.broken)
  | fuel + 1 => do
    let word := plainWord inFlow (← rest)
    if word.isEmpty then return ([], gap.broken)
    skip word.length
    let next ← wordGap fuel
    if next.text.isEmpty || (← rest).head? = some '#' || (!inFlow && (← column) < least) then
      return (gap.text ++ word, next.broken)
    let (more, broken) ← plainWords inFlow least next fuel
    return (gap.text ++ word ++ more, broken)

/-- A scalar without marks. Tells whether a break follows its last word. -/
def plainScalar (inFlow : Bool) (least : Nat) : Scan (String × Bool) := do
  let (chars, broken) ← plainWords inFlow least ⟨[], false⟩ ((← rest).length + 1)
  return (String.ofList chars, broken)

end Scan

end UnitConversion.Yaml

import UnitConversion.Yaml.Cursor

/-!
# Scalars in blocks

The lines of a block are set off by indentation. A header says what becomes of the breaks: whether
those between lines are folded, and whether those at the end are kept.
-/

namespace UnitConversion.Yaml

/-- What becomes of the breaks at the end of a block. -/
inductive Chomping
  /-- All are dropped. -/
  | strip
  /-- The first stays. -/
  | clip
  /-- All stay. -/
  | keep
deriving DecidableEq, Repr

/-- The lines of a block. -/
structure BlockBody where
  /-- The lines with the breaks between them. -/
  text : List Char
  /-- The break that ends the last line. -/
  lastBreak : List Char
  /-- The breaks after it. -/
  trailing : List Char

/-- The text that a block is. -/
def BlockBody.chomp (body : BlockBody) : Chomping → List Char
  | .strip => body.text
  | .clip => body.text ++ body.lastBreak
  | .keep => body.text ++ body.lastBreak ++ body.trailing

namespace Scan

/-- The sign in a header, if there is one. -/
def chompingSign : Scan (Option Chomping) := do
  return (← optional fun c => c = '+' || c = '-').map fun c => if c = '+' then .keep else .strip

/-- The header of a block: a sign and a digit for the depth, in any order and both optional. -/
def blockHeader : Scan (Chomping × Option Nat) := do
  let sign ← chompingSign
  let digit ← optional Char.isDigit
  let sign ← if sign.isNone then chompingSign else pure sign
  if digit = some '0' || !atSpace (← rest) then refuse
  emptyLineEnd
  return (sign.getD .clip, digit.map fun c => c.toNat - 48)

/-- The breaks before the first line of a block, and the furthest column that spaces reach. -/
def leadingBreaks (furthest : Nat) : Nat → Scan (List Char × Nat)
  | 0 => return ([], furthest)
  | fuel + 1 => do
    skipWhile (· = ' ')
    let furthest := max furthest (← column)
    let found ← lineBreak
    if found.isEmpty then return ([], furthest)
    let (breaks, furthest) ← leadingBreaks furthest fuel
    return (found ++ breaks, furthest)

/-- The breaks before a line of a block, and the spaces in front of the line up to a column. -/
def breaksTo (indent : Nat) : Nat → Scan (List Char)
  | 0 => return []
  | fuel + 1 => do
    let spaces := (← rest).takeWhile (· = ' ')
    skip (min spaces.length (indent - (← column)))
    let found ← lineBreak
    if found.isEmpty then return []
    return found ++ (← breaksTo indent fuel)

/-- A line of the block starts here. -/
def atBlockLine (indent : Nat) : Scan Bool := do
  return (← column) = indent && !(← rest).isEmpty

/-- The lines of a block from here on, after some breaks. -/
def blockLines (folded : Bool) (indent : Nat) (breaks : List Char) : Nat → Scan BlockBody
  | 0 => return ⟨[], [], breaks⟩
  | fuel + 1 => do
    if !(← atBlockLine indent) then return ⟨[], [], breaks⟩
    let startsBlank := (← rest).head?.any isSpace
    let line ← takeWhile fun c => !isBreak c
    let ending ← lineBreak
    let further ← breaksTo indent fuel
    if !(← atBlockLine indent) then return ⟨breaks ++ line, ending, further⟩
    let foldsHere := folded && ending = ['\n'] && !startsBlank && !(← rest).head?.any isSpace
    let joint := if foldsHere then (if further.isEmpty then [' '] else []) else ending
    let body ← blockLines folded indent further fuel
    return { body with text := breaks ++ line ++ joint ++ body.text }

/-- A scalar in a block, whose lines stand at least at the given column. -/
def blockScalar (folded : Bool) (least : Nat) : Scan String := do
  skip 1
  let (chomping, depth) ← blockHeader
  let fuel := (← rest).length + 1
  let (breaks, indent) ← match depth with
    | none => do
      let (breaks, furthest) ← leadingBreaks 0 fuel
      pure (breaks, max least furthest)
    | some depth => do
      let indent := least + depth - 1
      pure (← breaksTo indent fuel, indent)
  return String.ofList ((← blockLines folded indent breaks fuel).chomp chomping)

end Scan

end UnitConversion.Yaml

import UnitConversion.CommandLine.Flag
import UnitConversion.Text.DecimalDigit
import UnitConversion.Text.Quoted

/-!
# Words of the command line

A word is an argument, an option or the separator after which every word is an argument. A long
option may be shortened as long as it is clear which one is meant, a value may follow an equals
sign, and short options may share a word. An equals sign directly after a short option means
nothing when a text follows it.
-/

namespace UnitConversion.CommandLine

open Text

/-- What a word attaches to an option. -/
inductive Attachment
  /-- Nothing. -/
  | nothing
  /-- The text after an equals sign. -/
  | equals (text : String)
  /-- The letters after a short option. -/
  | letters (chars : List Char)
deriving DecidableEq, Repr

/-- A word of the command line. -/
inductive Word
  /-- An argument. -/
  | argument (text : String)
  /-- An option with what is attached to it. -/
  | option (flag : Flag) (attachment : Attachment)
  /-- A word that looks like an option and is none. -/
  | unknown (text : String)
  /-- The separator. -/
  | separator
deriving DecidableEq, Repr

/-- A long option that may be several. -/
structure Ambiguity where
  /-- The word. -/
  word : String
  /-- The options that it may be. -/
  flags : List Flag
deriving DecidableEq, Repr

namespace Word

/-- The separator as it is written. -/
def separatorText : String := "--"

/-- A negative number without an exponent: digits, or a point and digits with digits before it or
none. A line feed at the end does not matter. -/
def isNegativeNumber (text : String) : Bool :=
  match text.toList with
  | '-' :: rest =>
    let chars := if rest.getLast? = some '\n' then rest.dropLast else rest
    let whole := chars.takeWhile isDecimalDigit
    match chars.dropWhile isDecimalDigit with
    | [] => !whole.isEmpty
    | '.' :: digits => !digits.isEmpty && digits.all isDecimalDigit
    | _ => false
  | _ => false

/-- The option that is written out in full. -/
def exactFlag? (text : String) : Option Flag :=
  match text.toList with
  | ['-', letter] => Flag.ofLetter? letter
  | _ => Flag.all.find? (·.longName == text)

/-- The text before the first equals sign, and what follows the sign if there is one. -/
def splitEquals (text : String) : String × Attachment :=
  let chars := text.toList
  match chars.dropWhile (· ≠ '=') with
  | [] => (text, .nothing)
  | _ :: rest => (String.ofList (chars.takeWhile (· ≠ '=')), .equals (String.ofList rest))

/-- What an option in full has attached when its name ends at the first equals sign. The text behind
a short name is as good as letters. -/
def attached (name : String) : Attachment → Attachment
  | .equals text =>
    if name.length = 2 && !text.isEmpty then .letters text.toList else .equals text
  | attachment => attachment

/-- A word that starts with a hyphen and is no option. -/
def ofStray (text : String) : Word :=
  if isNegativeNumber text || text.toList.contains ' ' then .argument text else .unknown text

/-- A word that starts with two hyphens and is no option in full. -/
def ofShortened (text : String) : Except Ambiguity Word :=
  let (name, attachment) := splitEquals text
  match Flag.startingWith name with
  | [] => .ok (ofStray text)
  | [flag] => .ok (.option flag attachment)
  | flags => .error ⟨text, flags⟩

/-- Read a word before the separator. -/
def ofText (text : String) : Except Ambiguity Word :=
  match text.toList with
  | [] => .ok (.argument text)
  | first :: rest =>
    if first ≠ '-' then .ok (.argument text)
    else
      match exactFlag? text, splitEquals text with
      | some flag, _ => .ok (.option flag .nothing)
      | none, (name, attachment) =>
        match if attachment = .nothing then none else exactFlag? name with
        | some flag => .ok (.option flag (attached name attachment))
        | none =>
          match rest with
          | [] => .ok (.argument text)
          | letter :: letters =>
            if letter = '-' then ofShortened text
            else
              match Flag.ofLetter? letter with
              | some flag => .ok (.option flag (.letters letters))
              | none => .ok (ofStray text)

/-- Read the words of a command line. -/
def ofTexts : List String → Except Ambiguity (List Word)
  | [] => .ok []
  | text :: rest =>
    if text = separatorText then .ok (.separator :: rest.map .argument)
    else return (← ofText text) :: (← ofTexts rest)

end Word

end UnitConversion.CommandLine

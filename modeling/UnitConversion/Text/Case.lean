import UnitConversion.Text.CaseTable

/-!
# Lower and upper case

Full case mapping of a text: a character may become several, and a capital sigma becomes the final
small sigma at the end of a word.
-/

namespace UnitConversion.Text

/-- The code point that a table of runs maps the given one to, if a run holds it. -/
def mapByRuns (runs : List CaseRun) (code : Nat) : Option Nat :=
  (runs.find? fun run =>
    run.first ≤ code && code ≤ run.last && (code - run.first) % run.stride == 0).map
    fun run => ((code : Int) + run.shift).toNat

/-- The first of the characters that the search for a neighbouring letter does not pass over is a
letter with a case. -/
def startsCased (chars : List Char) : Bool :=
  match chars.dropWhile (inRanges caseIgnorableRanges) with
  | [] => false
  | c :: _ => inRanges casedRanges c

/-- The lower-case form of one character other than the capital sigma. -/
def lowerChar (c : Char) : List Char :=
  if c.toNat = 0x130 then ['i', Char.ofNat 0x307]
  else ((mapByRuns lowerRuns c.toNat).map Char.ofNat).getD c |> ([·])

/-- The lower-case form of a text, given the characters before it from last to first. A capital
sigma is final when a letter stands before it and none after it. -/
def lowerAfter (before : List Char) : List Char → List Char
  | [] => []
  | c :: rest =>
    let mapped :=
      if c.toNat = 0x3a3 then
        [Char.ofNat (if startsCased before && !startsCased rest then 0x3c2 else 0x3c3)]
      else lowerChar c
    mapped ++ lowerAfter (c :: before) rest

/-- The lower-case form of a text. -/
def lower (text : String) : String := String.ofList (lowerAfter [] text.toList)

/-- The upper-case form of one character. -/
def upperChar (c : Char) : List Char :=
  match upperExpansions.find? (·.1 == c.toNat) with
  | some expansion => expansion.2.map Char.ofNat
  | none => [((mapByRuns upperRuns c.toNat).map Char.ofNat).getD c]

/-- The upper-case form of a text. -/
def upper (text : String) : String := String.ofList (text.toList.flatMap upperChar)

end UnitConversion.Text

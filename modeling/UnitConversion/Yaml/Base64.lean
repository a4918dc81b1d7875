/-!
# Bytes as text in base sixty-four

Four characters write three bytes. Characters outside the alphabet are skipped; the last group may
be shorter when equals signs fill it up, and what follows them is not looked at.
-/

namespace UnitConversion.Yaml

/-- The value of a character of the alphabet. -/
def sextet? (c : Char) : Option Nat :=
  if 'A' ≤ c ∧ c ≤ 'Z' then some (c.toNat - 65)
  else if 'a' ≤ c ∧ c ≤ 'z' then some (c.toNat - 71)
  else if '0' ≤ c ∧ c ≤ '9' then some (c.toNat + 4)
  else if c = '+' then some 62
  else if c = '/' then some 63
  else none

/-- The bytes that characters write. `place` characters of the group are read, their bits that are
in no byte yet make up `carry`, and `fill` equals signs have been counted since. -/
def bytesOfSextets (place carry fill : Nat) : List Char → Option (List UInt8)
  | [] => if place = 0 then some [] else none
  | c :: rest =>
    if c = '=' then
      if place < 2 then bytesOfSextets place carry fill rest
      else if 3 ≤ place + fill then some []
      else bytesOfSextets place carry (fill + 1) rest
    else
      match sextet? c with
      | none => bytesOfSextets place carry fill rest
      | some value =>
        let byte (bits : Nat) := UInt8.ofNat bits
        match place with
        | 0 => bytesOfSextets 1 value 0 rest
        | 1 => (bytesOfSextets 2 (value % 16) 0 rest).map (byte (carry * 4 + value / 16) :: ·)
        | 2 => (bytesOfSextets 3 (value % 4) 0 rest).map (byte (carry * 16 + value / 4) :: ·)
        | _ => (bytesOfSextets 0 0 0 rest).map (byte (carry * 64 + value) :: ·)

/-- The bytes that a text writes. -/
def bytesOfBase64 (text : String) : Option (List UInt8) := bytesOfSextets 0 0 0 text.toList

/-- Three bytes in four characters. -/
example : bytesOfBase64 "TWFu" = some [77, 97, 110] := by decide +kernel

end UnitConversion.Yaml

import UnitConversion.Text.Lines

/-!
# Reading bytes as UTF-8

A file is read in pieces of fixed size, and each piece is decoded before the next one is looked at.
A piece that cannot be decoded yields nothing, the pieces before it stay readable, and the failure
is told by its place in the piece, counted from the bytes left over from the piece before.
-/

namespace UnitConversion.Text

/-- Why bytes are no UTF-8. -/
inductive DecodeCause
  /-- The byte starts no character. -/
  | invalidStart
  /-- A byte that has to continue a character does not. -/
  | invalidContinuation
  /-- The bytes end inside a character. -/
  | unexpectedEnd
deriving DecidableEq, Repr

/-- A place where decoding stops. -/
structure DecodeFailure where
  /-- The position of the first byte of the bad character. -/
  first : Nat
  /-- How many bytes are bad. -/
  count : Nat
  /-- The first bad byte. -/
  byte : UInt8
  /-- What is wrong. -/
  cause : DecodeCause
deriving DecidableEq, Repr

/-- The cause in words. -/
def DecodeCause.message : DecodeCause → String
  | .invalidStart => "invalid start byte"
  | .invalidContinuation => "invalid continuation byte"
  | .unexpectedEnd => "unexpected end of data"

/-- A number below 256 in base sixteen with two digits. -/
def hexByte (byte : UInt8) : String :=
  String.ofList [Nat.digitChar (byte.toNat / 16), Nat.digitChar (byte.toNat % 16)]

/-- The failure in words: one bad byte is shown, several are given by their positions. -/
def DecodeFailure.message (failure : DecodeFailure) : String :=
  if failure.count = 1 then
    "'utf-8' codec can't decode byte 0x" ++ hexByte failure.byte ++
      s!" in position {failure.first}: {failure.cause.message}"
  else
    s!"'utf-8' codec can't decode bytes in position {failure.first}-" ++
      s!"{failure.first + failure.count - 1}: {failure.cause.message}"

/-- Where a decoder stands between two bytes. -/
inductive DecodeState
  /-- Between characters. -/
  | start
  /-- Inside a character whose first byte was `lead`: `taken` bytes are read and make up `code`,
  `owed` are missing, and the next one lies between `low` and `high`. -/
  | inside (lead : UInt8) (taken code owed : Nat) (low high : UInt8)
  /-- The bytes read start a surrogate, and nothing has followed them yet. -/
  | surrogate (lead : UInt8)
deriving DecidableEq, Repr

/-- How many bytes of an unfinished character are read. -/
def DecodeState.taken : DecodeState → Nat
  | .start => 0
  | .inside _ taken _ _ _ _ => taken
  | .surrogate _ => 2

/-- The state after the first byte of a character, if some character starts with it. -/
def DecodeState.lead? (byte : UInt8) : Option DecodeState :=
  if 0xc2 ≤ byte ∧ byte ≤ 0xdf then some (.inside byte 1 (byte.toNat % 32) 1 0x80 0xbf)
  else if byte = 0xe0 then some (.inside byte 1 0 2 0xa0 0xbf)
  else if byte = 0xed then some (.inside byte 1 13 2 0x80 0x9f)
  else if 0xe1 ≤ byte ∧ byte ≤ 0xef then some (.inside byte 1 (byte.toNat % 16) 2 0x80 0xbf)
  else if byte = 0xf0 then some (.inside byte 1 0 3 0x90 0xbf)
  else if byte = 0xf4 then some (.inside byte 1 4 3 0x80 0x8f)
  else if 0xf1 ≤ byte ∧ byte ≤ 0xf3 then some (.inside byte 1 (byte.toNat % 8) 3 0x80 0xbf)
  else none

/-- What one piece of the bytes decodes to: its characters and the state at its end, or the first
failure. `position` counts the bytes of the piece, those left over from before included. -/
def decodePiece (position : Nat) (state : DecodeState) (chars : List Char) :
    List UInt8 → Except DecodeFailure (List Char × DecodeState)
  | [] => .ok (chars.reverse, state)
  | byte :: rest =>
    match state with
    | .start =>
      if byte < 0x80 then
        decodePiece (position + 1) .start (Char.ofNat byte.toNat :: chars) rest
      else
        match DecodeState.lead? byte with
        | some next => decodePiece (position + 1) next chars rest
        | none => .error ⟨position, 1, byte, .invalidStart⟩
    | .surrogate lead => .error ⟨position - 2, 1, lead, .invalidContinuation⟩
    | .inside lead taken code owed low high =>
      if low ≤ byte ∧ byte ≤ high then
        let code := 64 * code + byte.toNat % 64
        if owed ≤ 1 then decodePiece (position + 1) .start (Char.ofNat code :: chars) rest
        else
          let state := .inside lead (taken + 1) code (owed - 1) 0x80 0xbf
          decodePiece (position + 1) state chars rest
      else if lead = 0xed ∧ taken = 1 ∧ 0xa0 ≤ byte ∧ byte ≤ 0xbf ∧ rest = [] then
        .ok (chars.reverse, .surrogate lead)
      else .error ⟨position - taken, taken, lead, .invalidContinuation⟩

/-- The failure that the end of the bytes is in the given state, if it is one. -/
def DecodeState.failureAtEnd? : DecodeState → Option DecodeFailure
  | .start => none
  | .inside lead taken _ _ _ _ => some ⟨0, taken, lead, .unexpectedEnd⟩
  | .surrogate lead => some ⟨0, 1, lead, .invalidContinuation⟩

/-- A text read from bytes: what could be decoded, and why it stops there if it does. -/
structure Decoded where
  /-- The characters of the pieces that decode. -/
  chars : List Char
  /-- The failure of the piece after them. -/
  failure : Option DecodeFailure
deriving Repr

/-- Decode piece after piece. -/
def decodePieces (state : DecodeState) : List (List UInt8) → Decoded
  | [] => ⟨[], state.failureAtEnd?⟩
  | piece :: pieces =>
    match decodePiece state.taken state [] piece with
    | .error failure => ⟨[], some failure⟩
    | .ok (chars, state) =>
      let rest := decodePieces state pieces
      ⟨chars ++ rest.chars, rest.failure⟩

/-- The number of bytes that are read at once. -/
def pieceSize : Nat := 8192

/-- Cut bytes into pieces of the given size, the last one shorter. -/
def pieces (size : Nat) : List UInt8 → List (List UInt8)
  | [] => []
  | byte :: rest => (byte :: rest.take (size - 1)) :: pieces size (rest.drop (size - 1))
termination_by bytes => bytes.length
decreasing_by
  simp only [List.length_drop, List.length_cons]
  omega

/-- The byte order mark, as UTF-8. -/
def byteOrderMark : List UInt8 := [0xef, 0xbb, 0xbf]

/-- Read bytes as UTF-8. With `skipMark` a byte order mark at the start is no part of the text and
not counted in positions, and a file that ends inside one is empty. -/
def decode (skipMark : Bool) (bytes : List UInt8) : Decoded :=
  if skipMark && bytes.isPrefixOf byteOrderMark then ⟨[], none⟩
  else
    let cut := pieces pieceSize bytes
    if skipMark && byteOrderMark.isPrefixOf bytes then
      match cut with
      | [] => ⟨[], none⟩
      | piece :: rest => decodePieces .start (piece.drop byteOrderMark.length :: rest)
    else decodePieces .start cut

/-- The lines of a decoded text that can be had before the failure. Without a failure these are all
lines; with one, a line counts only when its end was read, and a carriage return at the very end may
still be half of a line break. -/
def Decoded.lines (decoded : Decoded) : List String :=
  match decoded.failure with
  | none => (splitLines (unifyBreaks decoded.chars)).map String.ofList
  | some _ =>
    let settled :=
      if decoded.chars.getLast? = some '\r' then decoded.chars.dropLast else decoded.chars
    ((splitLines (unifyBreaks settled)).filter fun line => line.getLast? = some '\n').map
      String.ofList

end UnitConversion.Text

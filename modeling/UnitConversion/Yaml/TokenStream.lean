import UnitConversion.Yaml.BlockScalar
import UnitConversion.Yaml.FlowScalar
import UnitConversion.Yaml.Token

/-!
# Cutting a YAML text into tokens

The text is cut from front to back. What stands before a colon turns out to be a key only when the
colon is reached; until then the place of its token is remembered, one place for each level of
brackets, and the tokens that announce the key are put in afterwards. Where the text cannot be cut
any further, only the tokens in front of every possible key are certain.
-/

namespace UnitConversion.Yaml

/-- A node that is a key if a colon follows soon. -/
structure PendingKey where
  /-- How many tokens are before the node. -/
  place : Nat
  /-- A colon has to follow. -/
  required : Bool
  /-- The index of the node. -/
  index : Nat
  /-- The line of the node. -/
  line : Nat
  /-- The column of the node. -/
  column : Nat

/-- The furthest that a colon may be from the start of its key. -/
def maxKeyLength : Nat := 1024

/-- What is known between two tokens. -/
structure Lexer where
  /-- The place in the text. -/
  cursor : Cursor
  /-- The tokens so far, the last one first. -/
  emitted : List Token
  /-- The columns of the open blocks, the innermost one first. -/
  indents : List Nat
  /-- The possible key inside the innermost brackets. -/
  pending : Option PendingKey
  /-- The possible keys around each pair of open brackets, the innermost one first. -/
  outer : List (Option PendingKey)
  /-- A key may start here. -/
  keysAllowed : Bool

namespace Lexer

/-- At the start of a text. A mark for the order of bytes is passed over. -/
def start (chars : List Char) : Lexer :=
  let cursor := Cursor.start chars
  let cursor := if chars.head?.any isOrderMark then cursor.next else cursor
  ⟨cursor, [], [], none, [], true⟩

/-- Inside brackets. -/
def inFlow (lexer : Lexer) : Bool := !lexer.outer.isEmpty

/-- Add a token. -/
def emit (lexer : Lexer) (token : Token) : Lexer :=
  { lexer with emitted := token :: lexer.emitted }

/-- The column that the content of the innermost block has to stand right of, plus one. -/
def contentColumn (lexer : Lexer) : Nat :=
  match lexer.indents with
  | [] => 0
  | column :: _ => column + 1

/-- Run a step through the text. -/
def scan {α : Type} (lexer : Lexer) (step : Scan α) : Except Fault (α × Lexer) := do
  let (found, cursor) ← step.run lexer.cursor
  return (found, { lexer with cursor })

/-- Pass over characters and add a token. -/
def mark (lexer : Lexer) (length : Nat) (token : Token) : Lexer :=
  { lexer with cursor := lexer.cursor.skip length }.emit token

/-- A key that is too far back for a colon at the place: it is on another line or too long. -/
def isStale (cursor : Cursor) (key : PendingKey) : Bool :=
  key.line ≠ cursor.line || maxKeyLength < cursor.index - key.index

/-- Forget a possible key that is too far back. -/
def refresh (cursor : Cursor) : Option PendingKey → Except Fault (Option PendingKey)
  | none => .ok none
  | some key =>
    if !isStale cursor key then .ok (some key)
    else if key.required then .error .malformed
    else .ok none

/-- Forget the possible keys that are too far back. -/
def dropStale (lexer : Lexer) : Except Fault Lexer := do
  let pending ← refresh lexer.cursor lexer.pending
  let outer ← lexer.outer.mapM (refresh lexer.cursor)
  return { lexer with pending, outer }

/-- Forget the possible key inside the innermost brackets. -/
def forgetKey (lexer : Lexer) : Except Fault Lexer :=
  if lexer.pending.any (·.required) then .error .malformed
  else .ok { lexer with pending := none }

/-- Remember that a key may start here. A scalar at the column of a block has to be one. -/
def noteKey (lexer : Lexer) : Except Fault Lexer := do
  if !lexer.keysAllowed then return lexer
  let lexer ← lexer.forgetKey
  let cursor := lexer.cursor
  let required := !lexer.inFlow && lexer.indents.head? = some cursor.column
  let key := ⟨lexer.emitted.length, required, cursor.index, cursor.line, cursor.column⟩
  return { lexer with pending := some key }

/-- Close the open blocks whose columns have a property. Inside brackets there are no blocks. -/
def closeBlocks (lexer : Lexer) (isLeft : Nat → Bool) : Lexer :=
  if lexer.inFlow then lexer
  else
    let closed := lexer.indents.takeWhile isLeft
    { lexer with
      indents := lexer.indents.dropWhile isLeft
      emitted := closed.map (fun _ => Token.blockEnd) ++ lexer.emitted }

/-- A block at the column would be a new one, inside the others. -/
def opensBlock (lexer : Lexer) (column : Nat) : Bool :=
  !lexer.inFlow && lexer.indents.head?.all (· < column)

/-- Open a block at the place, if it is a new one. -/
def openBlock (lexer : Lexer) (token : Token) : Lexer :=
  let column := lexer.cursor.column
  if lexer.opensBlock column then
    { lexer with indents := column :: lexer.indents }.emit token
  else lexer

/-- Where a block starts, a key has to be allowed. -/
def requireKeysAllowed (lexer : Lexer) : Except Fault Unit :=
  if !lexer.inFlow && !lexer.keysAllowed then .error .malformed else .ok ()

/-- Close all blocks, between documents. -/
def closeDocument (lexer : Lexer) : Except Fault Lexer := do
  let lexer ← (lexer.closeBlocks fun _ => true).forgetKey
  return { lexer with keysAllowed := false }

/-- A directive. -/
def directive (lexer : Lexer) : Except Fault Lexer := do
  let (found, lexer) ← (← lexer.closeDocument).scan Scan.directive
  return lexer.emit (.directive found)

/-- A mark for the start or the end of a document. -/
def documentMark (lexer : Lexer) (token : Token) : Except Fault Lexer := do
  return (← lexer.closeDocument).mark 3 token

/-- An opening bracket. -/
def openBracket (lexer : Lexer) (token : Token) : Except Fault Lexer := do
  let lexer ← lexer.noteKey
  let outer := lexer.pending :: lexer.outer
  return { lexer with outer, pending := none, keysAllowed := true }.mark 1 token

/-- A closing bracket. -/
def closeBracket (lexer : Lexer) (token : Token) : Except Fault Lexer := do
  let lexer ← lexer.forgetKey
  match lexer.outer with
  | [] => throw .malformed
  | pending :: outer => return { lexer with outer, pending, keysAllowed := false }.mark 1 token

/-- A comma between brackets. -/
def comma (lexer : Lexer) : Except Fault Lexer := do
  return ({ ← lexer.forgetKey with keysAllowed := true }).mark 1 .flowEntry

/-- The mark of an entry of a block sequence. -/
def blockEntry (lexer : Lexer) : Except Fault Lexer := do
  lexer.requireKeysAllowed
  let lexer ← (lexer.openBlock .blockSequenceStart).forgetKey
  return { lexer with keysAllowed := true }.mark 1 .blockEntry

/-- The mark of a key. -/
def keyMark (lexer : Lexer) : Except Fault Lexer := do
  lexer.requireKeysAllowed
  let lexer ← (lexer.openBlock .blockMappingStart).forgetKey
  return { lexer with keysAllowed := !lexer.inFlow }.mark 1 .key

/-- Put tokens in after the first tokens, as many as given. -/
def insertTokens (lexer : Lexer) (place : Nat) (tokens : List Token) : Lexer :=
  let after := lexer.emitted.length - place
  { lexer with
    emitted := lexer.emitted.take after ++ tokens.reverse ++ lexer.emitted.drop after }

/-- A colon after a possible key. -/
def valueOfKey (lexer : Lexer) (key : PendingKey) : Lexer :=
  let settled := { lexer with pending := none, keysAllowed := false }
  if settled.opensBlock key.column then
    let opened := { settled with indents := key.column :: settled.indents }
    (opened.insertTokens key.place [.blockMappingStart, .key]).mark 1 .value
  else (settled.insertTokens key.place [.key]).mark 1 .value

/-- A colon. -/
def colon (lexer : Lexer) : Except Fault Lexer := do
  match lexer.pending with
  | some key => return lexer.valueOfKey key
  | none =>
    lexer.requireKeysAllowed
    let lexer := lexer.openBlock .blockMappingStart
    return { lexer with keysAllowed := !lexer.inFlow }.mark 1 .value

/-- A node, or a mark in front of one, that may start a key. -/
def node (lexer : Lexer) (step : Scan Token) : Except Fault Lexer := do
  let lexer ← lexer.noteKey
  let (token, lexer) ← { lexer with keysAllowed := false }.scan step
  return lexer.emit token

/-- A scalar in a block. -/
def block (lexer : Lexer) (folded : Bool) : Except Fault Lexer := do
  let lexer ← lexer.forgetKey
  let (text, lexer) ← lexer.scan (Scan.blockScalar folded (max 1 lexer.contentColumn))
  return { lexer with keysAllowed := true }.emit (.scalar text false)

/-- A scalar without marks. -/
def plain (lexer : Lexer) : Except Fault Lexer := do
  let lexer ← lexer.noteKey
  let ((text, broken), lexer) ← lexer.scan (Scan.plainScalar lexer.inFlow lexer.contentColumn)
  return { lexer with keysAllowed := broken }.emit (.scalar text true)

/-- The characters that start no scalar without marks. -/
def reservedStarts : List Char :=
  "-?:,[]#&*!|>'\"%@".toList ++ ['\x7b', '\x7d', '\x60']

/-- A scalar without marks starts here. -/
def startsPlain (lexer : Lexer) (c : Char) (following : List Char) : Bool :=
  (!isSpace c && !isBreak c && !reservedStarts.contains c) ||
    (!atWordEnd following && (c = '-' || (!lexer.inFlow && (c = '?' || c = ':'))))

/-- An alias or an anchor, after its mark. -/
def nameStep (token : String → Token) : Scan Token := do
  Scan.skip 1
  return token (← Scan.anchorName)

/-- Take the token that starts with a character. -/
def take (lexer : Lexer) (c : Char) (following : List Char) : Except Fault Lexer :=
  let atMargin := lexer.cursor.column = 0
  let wordEnds := atWordEnd following
  if atMargin ∧ c = '%' then lexer.directive
  else if atMargin ∧ atTriple '-' (c :: following) then lexer.documentMark .documentStart
  else if atMargin ∧ atTriple '.' (c :: following) then lexer.documentMark .documentEnd
  else if c = '[' then lexer.openBracket .flowSequenceStart
  else if c = '\x7b' then lexer.openBracket .flowMappingStart
  else if c = ']' then lexer.closeBracket .flowSequenceEnd
  else if c = '\x7d' then lexer.closeBracket .flowMappingEnd
  else if c = ',' then lexer.comma
  else if c = '-' ∧ wordEnds then lexer.blockEntry
  else if c = '?' ∧ (lexer.inFlow ∨ wordEnds) then lexer.keyMark
  else if c = ':' ∧ (lexer.inFlow ∨ wordEnds) then lexer.colon
  else if c = '*' then lexer.node (nameStep Token.aliasMark)
  else if c = '&' then lexer.node (nameStep Token.anchor)
  else if c = '!' then lexer.node (do return .tag (← Scan.tag))
  else if c = '|' ∧ !lexer.inFlow then lexer.block false
  else if c = '>' ∧ !lexer.inFlow then lexer.block true
  else if c = '\x27' ∨ c = '"' then lexer.node (do return .scalar (← Scan.quotedScalar c) false)
  else if lexer.startsPlain c following then lexer.plain
  else .error .malformed

/-- Go to the next token and close the blocks that end before it. -/
def approach (lexer : Lexer) : Except Fault Lexer := do
  let (broken, lexer) ← lexer.scan (Scan.gap (lexer.cursor.rest.length + 1))
  let lexer := if broken && !lexer.inFlow then { lexer with keysAllowed := true } else lexer
  let lexer ← lexer.dropStale
  return lexer.closeBlocks (lexer.cursor.column < ·)

/-- The next step: nothing at the end of the text. -/
def step (lexer : Lexer) : Except Fault (Lexer × Bool) := do
  let lexer ← lexer.approach
  match lexer.cursor.rest with
  | [] => return (← lexer.closeDocument, false)
  | c :: following => return (← lexer.take c following, true)

/-- How many tokens are in front of every possible key. Nothing will be put in between them. -/
def settledCount (lexer : Lexer) : Nat :=
  ((lexer.pending :: lexer.outer).filterMap (·.map (·.place))).foldl min lexer.emitted.length

/-- The tokens of a text that cannot be cut any further: as many as are certain, and the fault. -/
def cutOff (lexer : Lexer) (fault : Fault) : List Token :=
  ((lexer.emitted.drop (lexer.emitted.length - lexer.settledCount)).reverse).concat (.broken fault)

/-- The tokens of the whole text, after those that are there. -/
def tokens (lexer : Lexer) : Nat → List Token
  | 0 => lexer.emitted.reverse
  | fuel + 1 =>
    match lexer.step with
    | .error fault => lexer.cutOff fault
    | .ok (last, false) => last.emitted.reverse
    | .ok (next, true) =>
      match next.dropStale with
      | .error fault => lexer.cutOff fault
      | .ok next => next.tokens fuel

end Lexer

/-- The tokens of a text. -/
def Token.ofText (text : String) : List Token :=
  let chars := text.toList
  if chars.all isAllowed then (Lexer.start chars).tokens (chars.length + 1)
  else [.broken .malformed]

end UnitConversion.Yaml

import UnitConversion.Text.Blank

/-!
# Lines and their tokens

One line of text is cut at delimiters. A backslash takes the special meaning from the character
after it, a hash starts a comment, and a line break ends the line. The units file and the console
read their lines this way, each with delimiters of its own.
-/

namespace UnitConversion

/-- A run of text between delimiters, or a single delimiter. -/
structure Token where
  /-- The text of the run, or the delimiter. -/
  text : String
  /-- Whether this is a delimiter. -/
  isDelimiter : Bool
  /-- The position in the line at which the token starts. -/
  column : Nat
deriving DecidableEq, Repr

/-- A run of text with nothing but blanks. -/
def Token.isBlank (token : Token) : Bool := !token.isDelimiter && (Text.trim token.text).isEmpty

/-- A line that ends inside an escape, at the given position. -/
structure DanglingEscape where
  /-- The position at which a character is missing. -/
  column : Nat
deriving DecidableEq, Repr

/-- The failure in words. -/
def DanglingEscape.message (failure : DanglingEscape) : String :=
  s!"column {failure.column}: expected a character after '\\'"

namespace Line

/-- The character that takes the special meaning from the next one. -/
def escape : Char := '\\'

/-- The character that starts a comment. -/
def comment : Char := '#'

/-- The characters that end a line. -/
def isBreak (c : Char) : Bool := c = '\r' || c = '\n'

/-- The run of text that started at `start`, from its characters in reverse. -/
def run (start : Nat) (reversed : List Char) : Token :=
  ⟨String.ofList reversed.reverse, false, start⟩

/-- Scan from position `column` on, inside a run that started at `start` and whose characters so far
are `reversed`. -/
def scan (isDelimiter : Char → Bool) (keepEscapes : Bool) (column start : Nat)
    (reversed : List Char) : List Char → Except DanglingEscape (List Token)
  | [] => .ok [run start reversed]
  | c :: rest =>
    if c = escape then
      match rest with
      | [] => .error ⟨column + 1⟩
      | escaped :: rest =>
        if isBreak escaped then .error ⟨column + 1⟩
        else
          let kept := if keepEscapes then escape :: reversed else reversed
          scan isDelimiter keepEscapes (column + 2) start (escaped :: kept) rest
    else if c = comment || isBreak c then .ok [run start reversed]
    else if isDelimiter c then
      (scan isDelimiter keepEscapes (column + 1) (column + 1) [] rest).map fun tokens =>
        run start reversed :: ⟨String.singleton c, true, column⟩ :: tokens
    else scan isDelimiter keepEscapes (column + 1) start (c :: reversed) rest

/-- The tokens of a line. A run of text stands before the first delimiter, between two neighbours
and after the last one, so an empty field is an empty run. Blanks stay where they are. With
`keepEscapes` the backslashes stay in the text. -/
def tokenize (isDelimiter : Char → Bool) (keepEscapes : Bool) (line : String) :
    Except DanglingEscape (List Token) :=
  scan isDelimiter keepEscapes 0 0 [] line.toList

/-- The characters that separate words. -/
def separatesWords (c : Char) : Bool := c = ' ' || c = '\t'

/-- The words of a line, with their escapes. -/
def words (line : String) : Except DanglingEscape (List String) :=
  (tokenize separatesWords true line).map fun tokens =>
    (tokens.filter fun token => !token.isDelimiter && !token.text.isEmpty).map Token.text

end Line

end UnitConversion

/-!
# Lines of a text

A text read as a stream is a sequence of lines, each with the line feed that ends it. Files are read
with every kind of line break turned into a line feed first.
-/

namespace UnitConversion.Text

/-- Cut a text after each line feed. The last line may lack one; no line is empty. -/
def splitLines : List Char → List (List Char)
  | [] => []
  | '\n' :: rest => ['\n'] :: splitLines rest
  | c :: rest =>
    match splitLines rest with
    | [] => [[c]]
    | line :: lines => (c :: line) :: lines

/-- The lines of a text. -/
def lines (text : String) : List String := (splitLines text.toList).map String.ofList

/-- Turn a carriage return, with or without a line feed after it, into a line feed. -/
def unifyBreaks : List Char → List Char
  | [] => []
  | '\r' :: '\n' :: rest => '\n' :: unifyBreaks rest
  | c :: rest => (if c = '\r' then '\n' else c) :: unifyBreaks rest

/-- Cutting into lines loses nothing. -/
theorem flatten_splitLines (chars : List Char) : (splitLines chars).flatten = chars := by
  fun_induction splitLines chars <;> simp_all

end UnitConversion.Text

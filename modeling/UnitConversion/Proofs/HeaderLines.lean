import UnitConversion.Proofs.LineReading
import UnitConversion.Proofs.ScanSteps
import UnitConversion.Proofs.Trimming

/-!
# Lines that begin with a bracket

Whether a line opens a group is seen from its characters: it begins with an opening bracket behind
blanks, and it scans. The first condition looks at no more than the blanks and the bracket; the
second one fails only when the line ends inside an escape.
-/

namespace UnitConversion.UnitsFile

open Text

/-- The first character that is not blank is an opening bracket without a backslash before it. A
blank may have a backslash before it; the line does not go on behind a line break. -/
def beginsWithBracket : List Char → Bool
  | [] => false
  | c :: rest =>
    if c = '[' then true
    else if c = Line.escape then
      match rest with
      | [] => false
      | escaped :: rest => isBlank escaped && beginsWithBracket rest
    else isBlank c && !Line.isBreak c && beginsWithBracket rest

/-- The line does not end inside an escape. -/
def scans (line : String) : Bool := (Line.tokenize isDelimiter false line).isOk

/-- Tokens start with an opening bracket behind blanks. -/
def startWithBracket : List Token → Bool
  | first :: second :: _ => first.isBlank && second.text == "["
  | _ => false

/-- A run is blank when all its characters are. -/
theorem isBlank_run (start : Nat) (reversed : List Char) :
    (Line.run start reversed).isBlank = reversed.all isBlank := by
  rw [Bool.eq_iff_iff]
  simp [Token.isBlank, Line.run, trim, trimChars_eq_nil_iff]

/-- Behind a character without a meaning of its own a line begins with a bracket if that character
is blank. -/
theorem beginsWithBracket_cons {c : Char} (hbracket : c ≠ '[') (hescape : c ≠ Line.escape)
    (rest : List Char) : beginsWithBracket (c :: rest) =
      (isBlank c && !Line.isBreak c && beginsWithBracket rest) := by
  rw [beginsWithBracket.eq_def]
  simp only [hbracket, hescape, if_false]

/-- A line that is over does not begin with a bracket. -/
theorem beginsWithBracket_of_ends {c : Char} {rest : List Char}
    (h : (decide (c = Line.comment) || Line.isBreak c) = true) :
    beginsWithBracket (c :: rest) = false := by
  simp only [Line.isBreak, Bool.or_eq_true, decide_eq_true_eq] at h
  rcases h with rfl | rfl | rfl <;> rw [beginsWithBracket_cons (by decide) (by decide)] <;> rfl

/-- A line with a delimiter in front begins with a bracket when that is the delimiter. -/
theorem beginsWithBracket_of_isDelimiter {c : Char} {rest : List Char}
    (h : isDelimiter c = true) :
    beginsWithBracket (c :: rest) = (String.singleton c == "[") := by
  simp only [isDelimiter, Bool.or_eq_true, decide_eq_true_eq] at h
  rcases h with ((rfl | rfl) | rfl) | rfl
  · unfold beginsWithBracket
    rfl
  all_goals
    rw [beginsWithBracket_cons (by decide) (by decide)]
    rfl

/-- What a scan from the middle of the first run gives starts with a bracket exactly when the run is
blank so far and the rest of the line begins with a bracket. -/
theorem startWithBracket_scan {column start : Nat} {reversed chars : List Char}
    {tokens : List Token}
    (h : Line.scan isDelimiter false column start reversed chars = .ok tokens) :
    startWithBracket tokens = (reversed.all isBlank && beginsWithBracket chars) := by
  replace h := Line.scanned_of_scan h
  -- The first run ends at the first delimiter, so no hypothesis is used behind it.
  induction h with
  | nil => simp [startWithBracket, beginsWithBracket]
  | stop _ hends => simp [startWithBracket, beginsWithBracket_of_ends hends]
  | escaped _ _ ih =>
    rw [ih]
    simp [beginsWithBracket, Line.escape, Bool.and_comm, Bool.and_assoc]
  | cut hdelimiter =>
    simp [startWithBracket, isBlank_run, beginsWithBracket_of_isDelimiter hdelimiter]
  | @plain _ _ _ _ _ c hdelimiter hescape hgoes _ ih =>
    have hbracket : c ≠ '[' := by
      rintro rfl
      contradiction
    have hbreak : Line.isBreak c = false := (Bool.or_eq_false_iff.mp hgoes).2
    rw [ih, List.all_cons, beginsWithBracket_cons hbracket hescape, hbreak, Bool.not_false,
      Bool.and_true, Bool.and_comm (isBlank c), Bool.and_assoc]

/-- A line opens a group when it scans and begins with a bracket, and only then. -/
theorem opensGroup_eq (line : String) :
    opensGroup line = (scans line && beginsWithBracket line.toList) := by
  unfold scans opensGroup
  cases hscan : Line.tokenize isDelimiter false line with
  | error failure => simp [Except.isOk, Except.toBool]
  | ok tokens =>
    have h := startWithBracket_scan hscan
    rw [List.all_nil, Bool.true_and] at h
    simp only [Except.isOk, Except.toBool, Bool.true_and, ← h]
    rcases tokens with _ | ⟨first, _ | ⟨second, rest⟩⟩ <;> rfl

end UnitConversion.UnitsFile

import UnitConversion.UnitsFile.Entry

/-!
# What single lines of a units file say

A line opens a group when it scans and the first of its delimiters is an opening bracket with only
blanks before it. A line makes a setting of a field when its key means that field, the commas are
the only delimiters behind the equals sign, and the field accepts the values between them. These
readings look at nothing but the tokens of the line.
-/

namespace UnitConversion.UnitsFile

open Text

/-- The line scans and its first delimiter is an opening bracket with only blanks before it. -/
def opensGroup (line : String) : Bool :=
  match Line.tokenize isDelimiter false line with
  | .ok (first :: second :: _) => first.isBlank && second.text == "["
  | _ => false

/-- The name in the header on a line: the one text between the brackets, when nothing else but
blanks stands on the line. -/
def headerName? (line : String) : Option String :=
  match Line.tokenize isDelimiter false line with
  | .ok [before, opening, name, closing, after] =>
    if before.isBlank && opening.text == "[" && !name.isDelimiter && closing.text == "]" &&
        after.isBlank && !(trim name.text).isEmpty then
      some (trim name.text)
    else none
  | _ => none

/-- The key that a text before an equals sign spells. -/
def keyOf (text : String) : String := lower (trim text)

/-- The values between the delimiters. -/
def valuesOf (tokens : List Token) : List String :=
  (tokens.filter fun token => !token.isDelimiter).map fun token => trim token.text

/-- The setting of a field that a line makes. -/
def settingOn? (limit : DigitLimit) (field : Field) (line : String) : Option Setting :=
  match Line.tokenize isDelimiter false line with
  | .ok (key :: sign :: rest) =>
    if sign.text = "=" ∧ Field.ofKey? (keyOf key.text) = some field ∧
        ∀ token ∈ rest, token.isDelimiter = true → token.text = "," then
      match field.read limit (keyOf key.text) (valuesOf rest) with
      | .accepted setting => some setting
      | _ => none
    else none
  | _ => none

/-- The line holds nothing but blanks and a comment. -/
def isBlankLine (line : String) : Bool :=
  match Line.tokenize isDelimiter false line with
  | .ok [only] => only.isBlank
  | _ => false

namespace Entry

/-- An entry ends the open declaration. -/
def closes : Entry → Bool
  | header _ | brokenHeader _ => true
  | _ => false

/-- The name that an entry opens a declaration with. -/
def name? : Entry → Option String
  | header name => some name
  | _ => none

/-- The setting of a field that an entry makes. -/
def setting? (limit : DigitLimit) (field : Field) : Entry → Option Setting
  | assignment key values =>
    if Field.ofKey? key = some field then
      match field.read limit key values with
      | .accepted setting => some setting
      | _ => none
    else none
  | _ => none

/-- A line that starts like a header makes a header entry, whole or broken. -/
theorem closes_ofHeader (tokens : List Token) : (ofHeader tokens).closes = true := by
  unfold ofHeader
  split
  · split
    · split <;> rfl
    · rfl
  · rfl

/-- What follows an equals sign makes no header entry. -/
theorem closes_ofAssignment (keyText : String) (rest : List Token) :
    (ofAssignment keyText rest).closes = false := by
  unfold ofAssignment
  dsimp only
  split
  · rfl
  · split <;> rfl

/-- Only entries that end the open declaration open one. -/
theorem name?_of_closes_eq_false {entry : Entry} (h : entry.closes = false) :
    entry.name? = none := by
  cases entry <;> first | rfl | contradiction

/-- Only entries that leave the open declaration open make settings. -/
theorem setting?_of_closes {entry : Entry} (limit : DigitLimit) (field : Field)
    (h : entry.closes = true) : entry.setting? limit field = none := by
  cases entry <;> first | rfl | contradiction

/-- The entry of a line that starts with a bracket behind blanks. -/
theorem ofTokens_of_bracket (line : String) {first second : Token} (rest : List Token)
    (h : (first.isBlank && second.text == "[") = true) :
    ofTokens line (first :: second :: rest) = ofHeader (first :: second :: rest) := by
  rw [ofTokens, if_pos h]

/-- The entry of a line with a delimiter that starts with no bracket. -/
theorem ofTokens_of_no_bracket (line : String) {first second : Token} (rest : List Token)
    (h : (first.isBlank && second.text == "[") = false) :
    ofTokens line (first :: second :: rest) =
      if second.text == "=" then ofAssignment first.text rest
      else .faulty (.unrecognized line) := by
  rw [ofTokens, if_neg (by simp [h])]

/-- What starts with no bracket behind blanks makes no header entry. -/
theorem closes_ofTokens_of_no_bracket (line : String) {first second : Token} (rest : List Token)
    (h : (first.isBlank && second.text == "[") = false) :
    (ofTokens line (first :: second :: rest)).closes = false := by
  rw [ofTokens_of_no_bracket line rest h]
  split
  · exact closes_ofAssignment _ _
  · rfl

/-- The empty key means no field. -/
theorem ofKey?_empty : Field.ofKey? "" = none := by decide

/-- The settings of an assignment are those that the field accepts. -/
theorem setting?_ofAssignment (limit : DigitLimit) (field : Field) (keyText : String)
    (rest : List Token) : (ofAssignment keyText rest).setting? limit field =
      if Field.ofKey? (keyOf keyText) = some field ∧
          ∀ token ∈ rest, token.isDelimiter = true → token.text = "," then
        match field.read limit (keyOf keyText) (valuesOf rest) with
        | .accepted setting => some setting
        | _ => none
      else none := by
  unfold ofAssignment
  cases hstray : rest.find? fun token => token.isDelimiter && token.text != "," with
  | some stray =>
    have hmem := List.mem_of_find?_eq_some hstray
    have hprop := List.find?_some hstray
    simp only [Bool.and_eq_true, bne_iff_ne] at hprop
    rw [if_neg]
    · rfl
    · rintro ⟨-, hall⟩
      exact hprop.2 (hall stray hmem hprop.1)
  | none =>
    have hall : ∀ token ∈ rest, token.isDelimiter = true → token.text = "," := by
      intro token hmem hdelimiter
      have := List.find?_eq_none.mp hstray token hmem
      simpa [hdelimiter] using this
    change Entry.setting? limit field (if (keyOf keyText).isEmpty = true then _ else _) = _
    by_cases hkey : (keyOf keyText).isEmpty = true
    · have hempty : keyOf keyText = "" := by simpa using hkey
      simp [hempty, ofKey?_empty, setting?]
    · have hiff : (Field.ofKey? (keyOf keyText) = some field ∧
          ∀ token ∈ rest, token.isDelimiter = true → token.text = ",") ↔
          Field.ofKey? (keyOf keyText) = some field := and_iff_left hall
      rw [if_neg hkey]
      simp only [hiff]
      rfl

end Entry

/-- A line opens a group exactly when its entry ends the open declaration. -/
theorem closes_ofLine (line : String) : (Entry.ofLine line).closes = opensGroup line := by
  unfold Entry.ofLine opensGroup
  cases Line.tokenize isDelimiter false line with
  | error failure => rfl
  | ok tokens =>
    rcases tokens with _ | ⟨first, _ | ⟨second, rest⟩⟩
    · rfl
    · simp only [Entry.ofTokens]
      split <;> rfl
    · dsimp only
      cases h : first.isBlank && second.text == "[" with
      | true => rw [Entry.ofTokens_of_bracket line rest h, Entry.closes_ofHeader]
      | false => rw [Entry.closes_ofTokens_of_no_bracket line rest h]

/-- The name of a header entry is the one in the header. -/
theorem name?_ofLine (line : String) : (Entry.ofLine line).name? = headerName? line := by
  unfold Entry.ofLine headerName?
  cases Line.tokenize isDelimiter false line with
  | error failure => rfl
  | ok tokens =>
    rcases tokens with _ | ⟨before, _ | ⟨opening, rest⟩⟩
    · rfl
    · simp only [Entry.ofTokens]
      split <;> rfl
    · dsimp only
      cases h : before.isBlank && opening.text == "[" with
      | false =>
        rw [Entry.name?_of_closes_eq_false (Entry.closes_ofTokens_of_no_bracket line rest h)]
        rcases rest with _ | ⟨name, _ | ⟨closing, _ | ⟨after, _ | ⟨more, rest⟩⟩⟩⟩ <;> simp [h]
      | true =>
        rw [Entry.ofTokens_of_bracket line rest h]
        rcases rest with _ | ⟨name, _ | ⟨closing, _ | ⟨after, _ | ⟨more, rest⟩⟩⟩⟩
        · rfl
        · rfl
        · rfl
        · simp only [Entry.ofHeader, h, Bool.true_and]
          split
          · rename_i hshape
            split <;> simp_all [Entry.name?]
          · simp_all [Entry.name?]
        · rfl

/-- The setting of an entry is the one that its line makes. -/
theorem setting?_ofLine (limit : DigitLimit) (field : Field) (line : String) :
    (Entry.ofLine line).setting? limit field = settingOn? limit field line := by
  unfold Entry.ofLine settingOn?
  cases Line.tokenize isDelimiter false line with
  | error failure => rfl
  | ok tokens =>
    rcases tokens with _ | ⟨first, _ | ⟨second, rest⟩⟩
    · rfl
    · simp only [Entry.ofTokens]
      split <;> rfl
    · dsimp only
      cases h : first.isBlank && second.text == "[" with
      | true =>
        have hsign : second.text = "[" := by
          simp only [Bool.and_eq_true, beq_iff_eq] at h
          exact h.2
        rw [Entry.ofTokens_of_bracket line rest h,
          Entry.setting?_of_closes limit field (Entry.closes_ofHeader _)]
        simp [hsign]
      | false =>
        rw [Entry.ofTokens_of_no_bracket line rest h]
        by_cases hsign : second.text = "="
        · simp [hsign, Entry.setting?_ofAssignment]
        · simp [hsign, Entry.setting?]

/-- A blank line makes the blank entry. -/
theorem ofLine_of_isBlankLine {line : String} (h : isBlankLine line = true) :
    Entry.ofLine line = .blank := by
  unfold isBlankLine at h
  unfold Entry.ofLine
  cases hscan : Line.tokenize isDelimiter false line with
  | error failure => simp [hscan] at h
  | ok tokens =>
    rcases tokens with _ | ⟨only, _ | ⟨second, rest⟩⟩
    · simp [hscan] at h
    · simp only [hscan] at h
      simp [Entry.ofTokens, h]
    · simp [hscan] at h

end UnitConversion.UnitsFile

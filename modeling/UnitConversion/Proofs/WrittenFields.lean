import UnitConversion.Proofs.LiteralShape
import UnitConversion.Proofs.UnitNames

/-!
# Fields that are written out

How the parts of a unit are written into a units file: names with a backslash before each character
that has a meaning there, numbers as literals, and each field on a line of its own. A line that is
written this way is read as the part that it was written for.
-/

namespace UnitConversion

namespace Text

/-- A digit as core writes it has its usual value. -/
theorem digitValue?_of_isDigit {c : Char} (h : c.isDigit = true) :
    digitValue? c = some (c.toNat - '0'.toNat) := by
  have hrange : 48 ≤ c.toNat ∧ c.toNat ≤ 57 := by
    simp only [Char.isDigit, Bool.and_eq_true, decide_eq_true_eq, ge_iff_le] at h
    exact h
  unfold digitValue? digitZeros
  rw [List.find?_cons_of_pos (by simp only [Bool.and_eq_true, decide_eq_true_eq]; omega)]
  rfl

/-- A digit as core writes it is a decimal digit. -/
theorem isDecimalDigit_of_isDigit {c : Char} (h : c.isDigit = true) : isDecimalDigit c = true := by
  rw [isDecimalDigit, digitValue?_of_isDigit h]
  rfl

/-- Core writes a number with decimal digits. -/
theorem all_isDecimalDigit_toDigits (number : Nat) :
    (Nat.toDigits 10 number).all isDecimalDigit = true := by
  rw [List.all_eq_true]
  intro c hc
  exact isDecimalDigit_of_isDigit (Nat.isDigit_of_mem_toDigits (by omega) (by omega) hc)

/-- The digits that core writes for a number have the number as their value. -/
theorem digitsValue_toDigits (number : Nat) : digitsValue (Nat.toDigits 10 number) = number := by
  calc digitsValue (Nat.toDigits 10 number)
      = Nat.ofDigitChars 10 (Nat.toDigits 10 number) 0 := by
        rw [digitsValue, Nat.ofDigitChars_eq_foldl]
        refine List.foldl_ext _ _ _ fun value c hc => ?_
        rw [digitValue?_of_isDigit (Nat.isDigit_of_mem_toDigits (by omega) (by omega) hc)]
        rfl
    _ = number := Nat.ofDigitChars_ten_toDigits

/-- There is no sign before the digits that core writes for a number. -/
theorem splitSign_toDigits (number : Nat) :
    splitSign (Nat.toDigits 10 number) = (false, Nat.toDigits 10 number) := by
  have hall := all_isDecimalDigit_toDigits number
  cases hdigits : Nat.toDigits 10 number with
  | nil => exact absurd hdigits Nat.toDigits_ne_nil
  | cons first rest =>
    rw [hdigits, List.all_cons, Bool.and_eq_true] at hall
    exact splitSign_of_isDecimalDigit hall.1 rest

/-- What core writes for a number is an integer. -/
theorem isInteger_toDigits (number : Nat) : isInteger (Nat.toDigits 10 number) = true := by
  have hnonempty : (Nat.toDigits 10 number).isEmpty = false :=
    List.isEmpty_eq_false_iff.mpr Nat.toDigits_ne_nil
  simp only [isInteger, splitSign_toDigits, hnonempty, all_isDecimalDigit_toDigits, Bool.not_false,
    Bool.and_self]

/-- What core writes for a number of few digits is read as the number. -/
theorem intOfDigits_toDigits {number digits most : Nat} (h : number < 10 ^ digits)
    (hdigits : 0 < digits) (hmost : digits ≤ most) :
    intOfDigits (some most) (Nat.toDigits 10 number) = .ok (number : Int) := by
  have hlength : (Nat.toDigits 10 number).length ≤ most :=
    ((Nat.length_toDigits_le_iff (by omega) hdigits).mpr h).trans hmost
  simp only [intOfDigits, splitSign_toDigits, natOfDigits, if_pos hlength, digitsValue_toDigits]
  rfl

end Text

namespace UnitsFile

open Text

/-- The characters that have a meaning in a units file unless a backslash stands before them. -/
def meaningfulChars : List Char := ['[', ']', '=', ',', '#', '\\']

/-- A backslash has to stand before the character. -/
def needsEscape (c : Char) : Bool := meaningfulChars.contains c

/-- The text with a backslash before each character that needs one. -/
def written (text : String) : String :=
  String.ofList (text.toList.flatMap fun c => if needsEscape c then [Line.escape, c] else [c])

/-- The characters that are written stand for the text, within a field of a line. -/
def WritesText (raw text : String) : Prop :=
  Line.Taken isDelimiter false raw.toList text.toList

/-- The literal, on one line, reads as the number. -/
structure WritesNumber (literal : String) (number : Float) : Prop where
  /-- No line ends in the literal. -/
  oneLine : Line.OneLine literal
  /-- It reads as the number. -/
  read : Numeric.readNumber literal = .ok number

/-- Characters with a meaning of their own need a backslash or end the line. -/
theorem isMeaningful_eq (c : Char) :
    Line.isMeaningful isDelimiter c = (needsEscape c || Line.isBreak c) := by
  rw [Bool.eq_iff_iff]
  simp only [Line.isMeaningful, isDelimiter, needsEscape, Bool.or_eq_true, decide_eq_true_eq,
    List.contains_iff_mem]
  simp only [meaningfulChars, Line.escape, Line.comment, List.mem_cons, List.not_mem_nil, or_false]
  tauto

/-- With its backslashes a text stands for itself. -/
theorem writesText_written {text : String} (h : Line.OneLine text) :
    WritesText (written text) text := by
  unfold Line.OneLine at h
  unfold WritesText written
  rw [String.toList_ofList]
  generalize text.toList = chars at h ⊢
  induction chars with
  | nil => exact .nil
  | cons c rest ih =>
    obtain ⟨hbreak, hrest⟩ := List.forall_mem_cons.mp h
    rw [List.flatMap_cons]
    by_cases hneeds : needsEscape c = true
    · rw [if_pos hneeds]
      exact .escaped hbreak (ih hrest)
    · rw [if_neg hneeds]
      refine .plain ?_ (ih hrest)
      rw [isMeaningful_eq, hbreak, Bool.or_false]
      simpa using hneeds

/-- No character of a number literal needs a backslash. -/
theorem needsEscape_of_isLiteralChar {c : Char} (h : Numeric.isLiteralChar c = true) :
    needsEscape c = false := by
  have hnone : meaningfulChars.any Numeric.isLiteralChar = false := by decide
  by_contra hneeds
  exact List.any_eq_false.mp hnone c (by simpa [needsEscape] using hneeds) h

/-- No blank needs a backslash. -/
theorem needsEscape_of_isBlank {c : Char} (h : isBlank c = true) : needsEscape c = false := by
  have hnone : meaningfulChars.any isBlank = false := by decide
  by_contra hneeds
  exact List.any_eq_false.mp hnone c (by simpa [needsEscape] using hneeds) h

/-- Characters of number literals stand for themselves. -/
theorem writesText_of_literalChars {text : String}
    (h : text.toList.all Numeric.isLiteralChar = true) : WritesText text text := by
  refine Line.Taken.of_plain (List.any_eq_false.mpr fun c hc => ?_)
  have hliteral := List.all_eq_true.mp h c hc
  have hbreak : Line.isBreak c = false := by
    by_contra hbreak
    simp only [Line.isBreak, Bool.not_eq_false, Bool.or_eq_true, decide_eq_true_eq] at hbreak
    rcases hbreak with rfl | rfl <;> exact absurd hliteral (by decide)
  rw [isMeaningful_eq, needsEscape_of_isLiteralChar hliteral, hbreak]
  decide

/-- A literal stands for itself. -/
theorem WritesNumber.writesText {literal : String} {number : Float}
    (h : WritesNumber literal number) : WritesText literal literal := by
  refine Line.Taken.of_plain (List.any_eq_false.mpr fun c hc => ?_)
  rw [isMeaningful_eq, h.oneLine c hc, Bool.or_false, Bool.not_eq_true]
  rcases isBlank_or_mem_trimChars hc with hblank | hkept
  · exact needsEscape_of_isBlank hblank
  · have hall := List.all_eq_true.mp (Numeric.all_isLiteralChar_trim h.read)
    rw [trim, String.toList_ofList] at hall
    exact needsEscape_of_isLiteralChar (hall c hkept)

/-- The line that opens the declaration of a unit with the name. -/
def headerLine (name : String) : String := "[" ++ written name ++ "]"

/-- The line that gives the values, as they are written, under the key. -/
def fieldLine (key : String) (raws : List String) : String := key ++ " = " ++ ", ".intercalate raws

/-- A text in brackets is read as the header with its name, the text that is written, trimmed. -/
theorem ofLine_bracketed {raw text : String} (h : WritesText raw text) :
    Entry.ofLine ("[" ++ raw ++ "]") =
      if (trim text).isEmpty then .brokenHeader .namelessHeader else .header (trim text) := by
  have hchars : ("[" ++ raw ++ "]").toList = '[' :: (raw.toList ++ [']']) := by simp
  have hrun : ∀ start, Line.run start (text.toList.reverse ++ []) = ⟨text, false, start⟩ := by
    simp [Line.run]
  have hscan : Line.tokenize isDelimiter false ("[" ++ raw ++ "]") =
      .ok [Line.run 0 [], ⟨"[", true, 0⟩, ⟨text, false, 1⟩,
        ⟨"]", true, 0 + 1 + raw.toList.length⟩,
        Line.run (0 + 1 + raw.toList.length + 1) []] := by
    rw [Line.tokenize, hchars, Line.scan_delimiter rfl (by decide) rfl, h.scan_append,
      Line.scan_delimiter rfl (by decide) rfl, Line.scan, hrun]
    rfl
  unfold Entry.ofLine
  rw [hscan]
  dsimp only
  rw [Entry.ofTokens_of_bracket _ _ (by rfl)]
  simp [Entry.ofHeader, isBlank_run]

/-- The line that opens a declaration is read as the header with the name. -/
theorem ofLine_headerLine {name : String} (hname : IsName name) :
    Entry.ofLine (headerLine name) = .header name := by
  rw [headerLine, ofLine_bracketed (writesText_written hname.oneLine), hname.trimmed,
    if_neg (by simpa using hname.nonempty)]

/-- Blanks behind the commas are blanks before the texts. -/
theorem intercalate_comma (first : List Char) (later : List (List Char)) :
    ' ' :: [',', ' '].intercalate (first :: later) =
      [','].intercalate ((' ' :: first) :: later.map (' ' :: ·)) := by
  induction later generalizing first with
  | nil => simp
  | cons second later ih =>
    rw [List.intercalate_cons_cons, List.map_cons, List.intercalate_cons_cons, ← ih second]
    simp

/-- The keys of fields have no characters with a meaning and stay as they are when they are read. -/
theorem key_spec {key : String} {field : Field} (h : Field.ofKey? key = some field) :
    (key ++ " ").toList.any (Line.isMeaningful isDelimiter) = false ∧
      keyOf (key ++ " ") = key ∧ key.isEmpty = false := by
  have hall : ∀ key ∈ "offset" :: Field.all.map Field.name,
      (key ++ " ").toList.any (Line.isMeaningful isDelimiter) = false ∧
        keyOf (key ++ " ") = key ∧ key.isEmpty = false := by decide +kernel
  apply hall
  unfold Field.ofKey? at h
  split at h
  · simp_all
  · have hname := List.find?_some h
    have hfield := List.mem_of_find?_eq_some h
    rw [← eq_of_beq hname]
    exact List.mem_cons_of_mem _ (List.mem_map_of_mem hfield)

/-- The values between the delimiters are the texts there, trimmed. -/
theorem valuesOf_eq_runs (tokens : List Token) : valuesOf tokens = (Line.runs tokens).map trim := by
  simp [valuesOf, Line.runs]

/-- Behind the equals sign, a line that gives values under a key has these values with commas
between them. -/
theorem tokenize_fieldLine {key : String} {field : Field} (hkey : Field.ofKey? key = some field)
    {raw text : String} {raws texts : List String} (hfirst : WritesText raw text)
    (hlater : List.Forall₂ WritesText raws texts) :
    ∃ column tokens, Line.tokenize isDelimiter false (fieldLine key (raw :: raws)) =
        .ok (⟨key ++ " ", false, 0⟩ :: ⟨"=", true, column⟩ :: tokens) ∧
      valuesOf tokens = (text :: texts).map trim ∧
      ∀ token ∈ tokens, token.isDelimiter = true → token.text = "," := by
  have hplain : Line.Taken isDelimiter false (key ++ " ").toList (key ++ " ").toList :=
    .of_plain (key_spec hkey).1
  have hchars : (fieldLine key (raw :: raws)).toList = (key ++ " ").toList ++ '=' ::
      [','].intercalate ((' ' :: raw.toList) :: (raws.map String.toList).map (' ' :: ·)) := by
    rw [← intercalate_comma]
    simp [fieldLine, String.toList_intercalate]
  have hblank : ∀ {raw text : List Char}, Line.Taken isDelimiter false raw text →
      Line.Taken isDelimiter false (' ' :: raw) (' ' :: text) := fun h => .plain rfl h
  have hvalues : List.Forall₂ (Line.Taken isDelimiter false)
      ((raws.map String.toList).map (' ' :: ·)) ((texts.map String.toList).map (' ' :: ·)) := by
    simp only [List.forall₂_map_left_iff, List.forall₂_map_right_iff]
    exact hlater.imp fun _ _ h => hblank h
  obtain ⟨tokens, hscan, hruns, hcommas⟩ := Line.scan_intercalate (c := ',') rfl (by decide) rfl
    (hblank hfirst) hvalues (0 + (key ++ " ").toList.length + 1)
    (0 + (key ++ " ").toList.length + 1) []
  refine ⟨0 + (key ++ " ").toList.length, tokens, ?_, ?_, hcommas⟩
  · rw [Line.tokenize, hchars, hplain.scan_append, Line.scan_delimiter rfl (by decide) rfl, hscan]
    simp only [Line.run, List.append_nil, List.reverse_reverse, String.ofList_toList]
    rfl
  · rw [valuesOf_eq_runs, hruns]
    simp [trim_blank_append, Function.comp_def]

/-- With commas alone between the values, an equals sign gives its key these values. -/
theorem Entry.ofAssignment_of_commas {keyText : String} {rest : List Token}
    (hkey : (keyOf keyText).isEmpty = false)
    (hcommas : ∀ token ∈ rest, token.isDelimiter = true → token.text = ",") :
    Entry.ofAssignment keyText rest = .assignment (keyOf keyText) (valuesOf rest) := by
  have hstray : rest.find? (fun token => token.isDelimiter && token.text != ",") = none := by
    rw [List.find?_eq_none]
    intro token hin
    cases hkind : token.isDelimiter with
    | false => simp
    | true => simp [hcommas token hin hkind]
  unfold keyOf at hkey
  simp only [Entry.ofAssignment, hstray, hkey, Bool.false_eq_true, if_false]
  rfl

/-- A line that gives values under a key is read as the key with the texts that are written,
trimmed. -/
theorem ofLine_fieldLine {key : String} {field : Field} (hkey : Field.ofKey? key = some field)
    {raw text : String} {raws texts : List String} (hfirst : WritesText raw text)
    (hlater : List.Forall₂ WritesText raws texts) :
    Entry.ofLine (fieldLine key (raw :: raws)) = .assignment key ((text :: texts).map trim) := by
  obtain ⟨-, hread, hnonempty⟩ := key_spec hkey
  obtain ⟨column, tokens, hline, hvalues, hcommas⟩ := tokenize_fieldLine hkey hfirst hlater
  unfold Entry.ofLine
  rw [hline]
  dsimp only
  rw [Entry.ofTokens_of_no_bracket _ _ (by simp), if_pos (by rfl),
    Entry.ofAssignment_of_commas (by rwa [hread]) hcommas, hread, hvalues]

/-- The value of a field of the unit. -/
def settingOf (unit : MeasureUnit) : Field → Setting
  | .aliases => .aliases unit.aliases
  | .quantity => .quantity unit.quantity
  | .factor => .factor unit.factor
  | .zeroPoint => .zeroPoint unit.offset
  | .dimensions => .dimensions unit.dimensions
  | .inverse => .inverse unit.inverse

/-- The line writes the field of the unit. -/
inductive WritesField (unit : MeasureUnit) : Field → String → Prop
  /-- The aliases, each with the backslashes that it needs. -/
  | aliases : WritesField unit .aliases (fieldLine "aliases" (unit.aliases.map written))
  /-- The name of the quantity. -/
  | quantity : WritesField unit .quantity (fieldLine "type" [unit.quantity.name])
  /-- A literal that reads as the factor. -/
  | factor {literal : String} (h : WritesNumber literal unit.factor) :
      WritesField unit .factor (fieldLine "conv_factor" [literal])
  /-- A literal that reads as the zero point, under one of the two keys. -/
  | zeroPoint {key literal : String} (hkey : key = "zero_point" ∨ key = "offset")
      (h : WritesNumber literal unit.offset) :
      WritesField unit .zeroPoint (fieldLine key [literal])
  /-- The exponent of prefixes in decimal digits. -/
  | dimensions : WritesField unit .dimensions (fieldLine "dimensions" [toString unit.dimensions])
  /-- One for a unit that is inverse, and zero for one that is not. -/
  | inverse : WritesField unit .inverse (fieldLine "inverse" [if unit.inverse then "1" else "0"])

/-- The only value is the one that is given. -/
theorem single_singleton (key : String) {value : String} (h : value ≠ "") :
    single key [value] = .ok value := by
  simp [single, h]

/-- A literal of a finite number is read as the number. -/
theorem finite_trim {literal : String} {number : Float} (h : WritesNumber literal number)
    (hfinite : number.isFinite = true) (key : String) :
    finite key [trim literal] = .ok number := by
  have hread := Numeric.readNumber_trim h.read
  have hnonempty : trim literal ≠ "" := by
    intro hempty
    have hnone : (Numeric.readNumber "").toOption.isNone = true := by decide +kernel
    rw [← hempty, hread] at hnone
    simp [Except.toOption] at hnone
  unfold finite
  rw [single_singleton key hnonempty, Outcome.bind_eq_ok]
  exact ⟨trim literal, rfl, by simp only [hread, hfinite, if_true]; rfl⟩

/-- A literal of a positive finite number is read as the number. -/
theorem positive_trim {literal : String} {number : Float} (h : WritesNumber literal number)
    (hvalid : number.isFinite = true ∧ 0 < number) (key : String) :
    positive key [trim literal] = .ok number := by
  have hpositive := (Numeric.not_le_zero_iff hvalid.1).mpr hvalid.2
  unfold positive
  rw [finite_trim h hvalid.1 key, Outcome.bind_eq_ok]
  exact ⟨number, rfl, by rw [if_neg hpositive]; rfl⟩

/-- The name of a quantity is read as the quantity. -/
theorem quantityValue_name (quantity : Quantity) (key : String) :
    quantityValue key [trim quantity.name] = .ok quantity := by
  have hname : trim quantity.name = quantity.name ∧ quantity.name ≠ "" := by
    cases quantity <;> decide
  unfold quantityValue
  rw [hname.1, single_singleton key hname.2, Outcome.bind_eq_ok]
  exact ⟨quantity.name, rfl, by simp only [Quantity.ofName_name]; rfl⟩

/-- The decimal digits of a number are characters of number literals. -/
theorem all_isLiteralChar_toString (number : Nat) :
    (toString number).toList.all Numeric.isLiteralChar = true := by
  rw [show (toString number).toList = Nat.toDigits 10 number from Nat.toList_repr]
  exact Numeric.all_isLiteralChar_of_isInteger (isInteger_toDigits number)

/-- The decimal digits of a number are the only value when they are given alone. -/
theorem integerText_toString (number : Nat) (key : String) :
    integerText key [trim (toString number)] = .ok (toString number) := by
  have hchars : (toString number).toList = Nat.toDigits 10 number := Nat.toList_repr
  have hnonempty : toString number ≠ "" := by
    intro hempty
    rw [hempty] at hchars
    exact Nat.toDigits_ne_nil hchars.symm
  have htrim : trim (toString number) = toString number := by
    apply trim_of_no_blank
    have hall := List.all_eq_true.mp (all_isLiteralChar_toString number)
    rw [List.any_eq_false]
    intro c hc
    simp [Numeric.isBlank_of_isLiteralChar (hall c hc)]
  unfold integerText
  rw [htrim, single_singleton key hnonempty, Outcome.bind_eq_ok]
  exact ⟨toString number, rfl, by rw [hchars, if_pos (isInteger_toDigits number)]; rfl⟩

/-- The decimal digits of the exponent of prefixes are read as the exponent. -/
theorem read_dimensions (unit : MeasureUnit) (key : String) :
    Field.dimensions.read digitLimit key [trim (toString unit.dimensions)] =
      .accepted (.dimensions unit.dimensions) := by
  have hrange := unit.dimensions_valid
  have hvalue : intOfDigits digitLimit (toString unit.dimensions).toList =
      .ok (unit.dimensions : Int) := by
    have hfew : unit.dimensions < 10 ^ 3 := lt_of_le_of_lt hrange.2 (by decide)
    rw [show (toString unit.dimensions).toList = Nat.toDigits 10 unit.dimensions from
      Nat.toList_repr]
    exact intOfDigits_toDigits hfew (by omega) (by omega)
  unfold Field.read
  rw [integerText_toString]
  dsimp only [readDimensions]
  rw [hvalue]
  dsimp only
  rw [if_pos (by omega)]

/-- One and zero are read as whether the unit is inverse. -/
theorem read_inverse (inverse : Bool) (key : String) :
    Field.inverse.read digitLimit key [trim (if inverse then "1" else "0")] =
      .accepted (.inverse inverse) := by
  have hread : (Numeric.readNumber (if inverse then "1" else "0")).map
      (fun number => (number.isFinite, number != 0)) = .ok (true, inverse) := by
    cases inverse <;> decide +kernel
  have hline : Line.OneLine (if inverse then "1" else "0") := by
    cases inverse <;> decide
  obtain ⟨number, hnumber, hsame⟩ := Outcome.map_eq_ok.mp hread
  simp only [Prod.mk.injEq] at hsame
  unfold Field.read
  rw [finite_trim ⟨hline, hnumber⟩ hsame.1]
  simp only [Reading.ofExcept, hsame.2]

/-- The line that writes the aliases is read as the aliases. -/
theorem exists_assignment_of_aliases {unit : MeasureUnit}
    (names : ∀ name ∈ unit.names, IsName name) :
    ∃ values, Entry.ofLine (fieldLine "aliases" (unit.aliases.map written)) =
        .assignment "aliases" values ∧
      Field.aliases.read digitLimit "aliases" values = .accepted (.aliases unit.aliases) := by
  have hkey : Field.ofKey? "aliases" = some .aliases := by decide
  have haliases : ∀ name ∈ unit.aliases, IsName name := fun name hin =>
    names name (List.mem_of_mem_tail hin)
  cases hlist : unit.aliases with
  | nil =>
    -- Nothing is written behind the equals sign, and it is read as one empty value.
    have hempty : WritesText "" "" := by
      rw [WritesText, String.toList_empty]
      exact .nil
    have hline : fieldLine "aliases" [] = fieldLine "aliases" [""] := by
      rw [fieldLine, fieldLine, String.intercalate_nil, String.intercalate_singleton]
    have htrim : trim "" = "" := trim_of_no_blank (by simp)
    rw [List.map_nil, hline]
    refine ⟨_, ofLine_fieldLine hkey hempty .nil, ?_⟩
    simp [Field.read, htrim]
  | cons first later =>
    rw [hlist] at haliases
    obtain ⟨hfirst, hlater⟩ := List.forall_mem_cons.mp haliases
    have hwritten : List.Forall₂ WritesText (later.map written) later := by
      rw [List.forall₂_map_left_iff, List.forall₂_same]
      exact fun name hin => writesText_written (hlater name hin).oneLine
    refine ⟨_, ofLine_fieldLine hkey (writesText_written hfirst.oneLine) hwritten, ?_⟩
    unfold Field.read
    rw [filter_map_trim_of_isName haliases]

/-- A line that writes a field is read as an assignment to the field that it accepts, with the value
that the unit has. -/
theorem exists_assignment_of_writesField {unit : MeasureUnit} {field : Field} {line : String}
    (names : ∀ name ∈ unit.names, IsName name) (h : WritesField unit field line) :
    ∃ key values, Entry.ofLine line = .assignment key values ∧ Field.ofKey? key = some field ∧
      field.read digitLimit key values = .accepted (settingOf unit field) := by
  cases h with
  | aliases =>
    obtain ⟨values, hline, hread⟩ := exists_assignment_of_aliases names
    exact ⟨"aliases", values, hline, by decide, hread⟩
  | quantity =>
    have hkey : Field.ofKey? "type" = some .quantity := by decide
    have hplain : ∀ quantity ∈ Quantity.all,
        quantity.name.toList.any (Line.isMeaningful isDelimiter) = false := by decide +kernel
    have hname := hplain unit.quantity (by cases unit.quantity <;> decide)
    refine ⟨"type", _, ofLine_fieldLine hkey (.of_plain hname) .nil, hkey, ?_⟩
    unfold Field.read
    rw [List.map_singleton, quantityValue_name]
    rfl
  | @factor literal hliteral =>
    have hkey : Field.ofKey? "conv_factor" = some .factor := by decide
    refine ⟨"conv_factor", _, ofLine_fieldLine hkey hliteral.writesText .nil, hkey, ?_⟩
    unfold Field.read
    rw [List.map_singleton, positive_trim hliteral unit.factor_valid]
    rfl
  | @zeroPoint key literal hkeys hliteral =>
    have hkey : Field.ofKey? key = some .zeroPoint := by
      rcases hkeys with rfl | rfl <;> decide
    refine ⟨key, _, ofLine_fieldLine hkey hliteral.writesText .nil, hkey, ?_⟩
    unfold Field.read
    rw [List.map_singleton, finite_trim hliteral unit.offset_finite]
    rfl
  | dimensions =>
    have hkey : Field.ofKey? "dimensions" = some .dimensions := by decide
    have hdigits := writesText_of_literalChars (all_isLiteralChar_toString unit.dimensions)
    exact ⟨"dimensions", _, ofLine_fieldLine hkey hdigits .nil, hkey, read_dimensions unit _⟩
  | inverse =>
    have hkey : Field.ofKey? "inverse" = some .inverse := by decide
    have hdigit : WritesText (if unit.inverse then "1" else "0")
        (if unit.inverse then "1" else "0") := by
      apply writesText_of_literalChars
      cases unit.inverse <;> decide
    exact ⟨"inverse", _, ofLine_fieldLine hkey hdigit .nil, hkey, read_inverse unit.inverse _⟩

end UnitsFile

end UnitConversion

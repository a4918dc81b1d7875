import UnitConversion.Proofs.WrittenUnits

/-!
# What becomes of a line

A line of a units file is blank, or it opens a declaration, or it sets a field of the open one, or
there is one warning about it. What is open is closed by a header line or by the end of the file;
then its unit is added as a whole, or there are warnings about its header. The exception is an
integer with more digits than may be read, which ends the reading.
-/

namespace UnitConversion.UnitsFile

open Text MeasureUnit

/-- The line sets the exponent of prefixes to an integer with more digits than the limit allows. -/
def IsOverlong (limit : DigitLimit) (line : String) : Prop :=
  ∃ key sign rest text most,
    Line.tokenize isDelimiter false line = .ok (key :: sign :: rest) ∧ sign.text = "=" ∧
      Field.ofKey? (keyOf key.text) = some .dimensions ∧
      (∀ token ∈ rest, token.isDelimiter = true → token.text = ",") ∧
      valuesOf rest = [text] ∧ isInteger text.toList = true ∧
      limit = some most ∧ most < (splitSign text.toList).2.length

/-- An integer has more digits than the limit allows, or it is read. -/
theorem intOfDigits_eq_error_iff {limit : DigitLimit} {chars : List Char}
    {failure : TooManyDigits} :
    intOfDigits limit chars = .error failure ↔
      ∃ most, limit = some most ∧ most < (splitSign chars).2.length ∧
        failure = ⟨most, (splitSign chars).2.length⟩ := by
  unfold intOfDigits natOfDigits
  obtain ⟨negative, digits⟩ := splitSign chars
  cases limit with
  | none => simp [bind, Except.bind, pure, Except.pure]
  | some most =>
    by_cases hlength : digits.length ≤ most
    · simp [hlength, bind, Except.bind, pure, Except.pure]
    · simp only [hlength, if_false, bind, Except.bind, Except.error.injEq, Option.some.injEq]
      constructor
      · rintro rfl
        exact ⟨most, rfl, by omega, rfl⟩
      · rintro ⟨other, rfl, -, rfl⟩
        rfl

/-- What is read as the digits of an integer is the only value. -/
theorem integerText_eq_ok_iff {key text : String} {values : List String} :
    integerText key values = .ok text ↔ values = [text] ∧ isInteger text.toList = true := by
  unfold integerText
  rw [Outcome.bind_eq_ok]
  constructor
  · rintro ⟨only, hsingle, hinteger⟩
    unfold single at hsingle
    split at hsingle
    · split at hsingle
      · contradiction
      · cases hsingle
        split at hinteger
        · rw [Outcome.pure_eq_ok] at hinteger
          subst hinteger
          exact ⟨rfl, ‹_›⟩
        · exact absurd hinteger Outcome.throw_ne_ok
    · contradiction
  · rintro ⟨rfl, hinteger⟩
    have hempty : text.isEmpty = false := by
      rw [Bool.eq_false_iff]
      intro hempty
      rw [String.isEmpty_iff] at hempty
      subst hempty
      contradiction
    exact ⟨text, by simp [single, hempty], by simp [hinteger, pure, Except.pure]⟩

/-- Only the exponent of prefixes is given by an integer that is too long to be read. -/
theorem Field.read_eq_overlong_iff {limit : DigitLimit} {field : Field} {key : String}
    {values : List String} {failure : TooManyDigits} :
    field.read limit key values = .overlong failure ↔
      field = .dimensions ∧ ∃ text, values = [text] ∧ isInteger text.toList = true ∧
        intOfDigits limit text.toList = .error failure := by
  cases field with
  | dimensions =>
    simp only [Field.read, true_and]
    cases htext : integerText key values with
    | error fault =>
      constructor
      · intro h
        contradiction
      · rintro ⟨text, rfl, hinteger, -⟩
        rw [integerText_eq_ok_iff.mpr ⟨rfl, hinteger⟩] at htext
        contradiction
    | ok text =>
      obtain ⟨rfl, hinteger⟩ := integerText_eq_ok_iff.mp htext
      simp only [List.cons.injEq, and_true, exists_eq_left', hinteger, true_and, readDimensions]
      cases intOfDigits limit text.toList with
      | error other => simp
      | ok number =>
        dsimp only
        split <;> simp
  | aliases => simp [Field.read]
  | quantity | factor | zeroPoint | inverse =>
    simpa [Field.read] using Reading.ofExcept_ne_overlong

/-- What follows an equals sign gives a key and values when the commas are its only delimiters and
the key is not empty. -/
theorem Entry.ofAssignment_eq_assignment_iff {keyText key : String} {rest : List Token}
    {values : List String} :
    Entry.ofAssignment keyText rest = .assignment key values ↔
      (∀ token ∈ rest, token.isDelimiter = true → token.text = ",") ∧ key = keyOf keyText ∧
        key ≠ "" ∧ values = valuesOf rest := by
  constructor
  · intro h
    unfold ofAssignment at h
    dsimp only at h
    split at h
    · simp at h
    · rename_i hstray
      split at h
      · simp at h
      · rename_i hkey
        simp only [assignment.injEq] at h
        obtain ⟨rfl, rfl⟩ := h
        refine ⟨fun token hin hdelimiter => ?_, rfl, by simpa using hkey, rfl⟩
        simpa [hdelimiter] using List.find?_eq_none.mp hstray token hin
  · rintro ⟨hcommas, rfl, hkey, rfl⟩
    exact ofAssignment_of_commas (by simpa using hkey) hcommas

/-- The tokens of a line that gives a key and values. -/
theorem ofLine_eq_assignment_iff {line key : String} {values : List String} :
    Entry.ofLine line = .assignment key values ↔
      ∃ first sign rest, Line.tokenize isDelimiter false line = .ok (first :: sign :: rest) ∧
        sign.text = "=" ∧ (∀ token ∈ rest, token.isDelimiter = true → token.text = ",") ∧
        key = keyOf first.text ∧ key ≠ "" ∧ values = valuesOf rest := by
  constructor
  · intro h
    have hcloses := closes_ofLine line
    rw [h] at hcloses
    unfold Entry.ofLine at h
    unfold opensGroup at hcloses
    cases hscan : Line.tokenize isDelimiter false line with
    | error failure => simp [hscan] at h
    | ok tokens =>
      rw [hscan] at h hcloses
      rcases tokens with _ | ⟨first, _ | ⟨sign, rest⟩⟩
      · simp [Entry.ofTokens] at h
      · simp only [Entry.ofTokens] at h
        split at h <;> contradiction
      · dsimp only at h hcloses
        rw [Entry.ofTokens_of_no_bracket line rest hcloses.symm] at h
        split at h
        · rename_i hsign
          exact ⟨first, sign, rest, rfl, by simpa using hsign,
            Entry.ofAssignment_eq_assignment_iff.mp h⟩
        · contradiction
  · rintro ⟨first, sign, rest, hscan, hsign, hassignment⟩
    have hbracket : (first.isBlank && sign.text == "[") = false := by simp [hsign]
    unfold Entry.ofLine
    rw [hscan]
    dsimp only
    rw [Entry.ofTokens_of_no_bracket line rest hbracket, hsign, if_pos (by decide)]
    exact Entry.ofAssignment_eq_assignment_iff.mpr hassignment

/-- A line makes the blank entry when it is blank. -/
theorem isBlankLine_of_ofLine {line : String} (h : Entry.ofLine line = .blank) :
    isBlankLine line = true := by
  have hcloses := closes_ofLine line
  rw [h] at hcloses
  unfold Entry.ofLine at h
  unfold opensGroup at hcloses
  unfold isBlankLine
  cases hscan : Line.tokenize isDelimiter false line with
  | error failure => simp [hscan] at h
  | ok tokens =>
    rw [hscan] at h hcloses
    rcases tokens with _ | ⟨only, _ | ⟨sign, rest⟩⟩
    · simp [Entry.ofTokens] at h
    · simp only [Entry.ofTokens] at h
      split at h
      · assumption
      · contradiction
    · dsimp only at h hcloses
      rw [Entry.ofTokens_of_no_bracket line rest hcloses.symm] at h
      split at h
      · unfold Entry.ofAssignment at h
        dsimp only at h
        split at h
        · simp at h
        · split at h <;> simp at h
      · simp at h

/-- A line is overlong when its integer is refused. -/
theorem isOverlong_iff {limit : DigitLimit} {line : String} :
    IsOverlong limit line ↔ ∃ key values failure, Entry.ofLine line = .assignment key values ∧
      Field.ofKey? key = some .dimensions ∧
      Field.dimensions.read limit key values = .overlong failure := by
  simp only [Field.read_eq_overlong_iff, intOfDigits_eq_error_iff, true_and]
  constructor
  · rintro ⟨key, sign, rest, text, most, hscan, hsign, hkey, hcommas, hvalues, hinteger, hlimit,
      hlong⟩
    have hnonempty : keyOf key.text ≠ "" := by
      intro hempty
      rw [hempty, Entry.ofKey?_empty] at hkey
      contradiction
    exact ⟨keyOf key.text, valuesOf rest, _, ofLine_eq_assignment_iff.mpr
      ⟨key, sign, rest, hscan, hsign, hcommas, rfl, hnonempty, rfl⟩, hkey, text, hvalues, hinteger,
      most, hlimit, hlong, rfl⟩
  · rintro ⟨key, values, failure, hentry, hkey, text, hvalues, hinteger, most, hlimit, hlong, -⟩
    obtain ⟨first, sign, rest, hscan, hsign, hcommas, rfl, -, rfl⟩ :=
      ofLine_eq_assignment_iff.mp hentry
    exact ⟨first, sign, rest, text, most, hscan, hsign, hkey, hcommas, hvalues, hinteger, hlimit,
      hlong⟩

/-- A line that gives the exponent of prefixes with too many digits is overlong. -/
theorem isOverlong_fieldLine {most : Nat} {text : String} (hinteger : isInteger text.toList = true)
    (hlong : most < (splitSign text.toList).2.length) :
    IsOverlong (some most) (fieldLine "dimensions" [text]) := by
  have hkey : Field.ofKey? "dimensions" = some .dimensions := by decide
  have hliteral := Numeric.all_isLiteralChar_of_isInteger hinteger
  have htrim : trim text = text := by
    apply trim_of_no_blank
    rw [List.any_eq_false]
    intro c hc
    simp [Numeric.isBlank_of_isLiteralChar (List.all_eq_true.mp hliteral c hc)]
  have hentry := ofLine_fieldLine hkey (writesText_of_literalChars hliteral) .nil
  rw [List.map_singleton, htrim] at hentry
  exact isOverlong_iff.mpr ⟨"dimensions", [text], _, hentry, hkey, Field.read_eq_overlong_iff.mpr
    ⟨rfl, text, rfl, hinteger, intOfDigits_eq_error_iff.mpr ⟨most, rfl, hlong, rfl⟩⟩⟩

namespace Reader

/-- The warnings about a line. -/
def about (reader : Reader) (number : Nat) : List Warning :=
  reader.warnings.filter (·.line == number)

/-- The step reports warnings about one line, or there are none and something was done. -/
def Reports (line : Nat) (done : Prop) (reader after : Reader) : Prop :=
  ∃ added, after.warnings = reader.warnings ++ added ∧ (∀ warning ∈ added, warning.line = line) ∧
    (added = [] → done)

variable {reader after : Reader} {line : Nat} {done : Prop}

/-- A warning is one. -/
theorem reports_warn (reader : Reader) (line : Nat) (problem : Problem) (done : Prop) :
    Reports line done reader (reader.warn line problem) :=
  ⟨[⟨line, problem⟩], rfl, by simp, by simp⟩

/-- Warnings about one line, and behind them further ones about the same line. -/
theorem Reports.trans {between : Reader} {before : Prop}
    (first : Reports line before reader between) (second : Reports line done between after) :
    Reports line done reader after := by
  obtain ⟨added, hadded, hlines, -⟩ := first
  obtain ⟨later, hlater, hlaterLines, hdone⟩ := second
  refine ⟨added ++ later, by rw [hlater, hadded, List.append_assoc], ?_, fun hnone => ?_⟩
  · intro warning hin
    rcases List.mem_append.mp hin with hin | hin
    · exact hlines warning hin
    · exact hlaterLines warning hin
  · exact hdone (List.append_eq_nil_iff.mp hnone).2

/-- What was done may be said in another way. -/
theorem Reports.imp {other : Prop} (h : Reports line done reader after) (himp : done → other) :
    Reports line other reader after := by
  obtain ⟨added, hadded, hlines, hdone⟩ := h
  exact ⟨added, hadded, hlines, fun hnone => himp (hdone hnone)⟩

/-- Warnings that are reported one after another are about the same line. -/
theorem reports_foldl_warn {α : Type} (reader : Reader) (line : Nat) (problem : α → Problem)
    (items : List α) :
    Reports line True reader
      (items.foldl (fun reader item => reader.warn line (problem item)) reader) := by
  induction items generalizing reader with
  | nil => exact ⟨[], by simp⟩
  | cons item items ih => exact (reports_warn reader line (problem item) True).trans (ih _)

/-- When names are taken that is reported. -/
theorem warnings_addUnit_of_taken {reader : Reader} (declaration : Declaration) {unit : MeasureUnit}
    (h : (reader.registry.conflicts unit).isEmpty = false) :
    ∃ problem later, (reader.addUnit declaration unit).warnings =
        reader.warnings ++ ⟨declaration.line, problem⟩ :: later ∧
      ∀ warning ∈ later, warning.line = declaration.line := by
  simp only [addUnit, h, Bool.false_eq_true, if_false]
  split
  · exact ⟨.namesTaken declaration.name (reader.registry.conflicts unit), [], by simp [warn],
      by simp⟩
  · exact ⟨.namesTaken declaration.name (reader.registry.conflicts unit),
      [⟨declaration.line, .noNamesLeft declaration.name⟩], by simp [warn], by simp⟩

/-- Adding a unit reports names that are taken, or it adds the unit with all its names. -/
theorem reports_addUnit (reader : Reader) (declaration : Declaration) (unit : MeasureUnit) :
    Reports declaration.line
      ((reader.addUnit declaration unit).registry.units = reader.registry.units ++ [unit])
      reader (reader.addUnit declaration unit) := by
  by_cases hfree : ∀ name ∈ unit.names, reader.registry.contains name = false
  · rw [addUnit_of_free declaration hfree]
    exact ⟨[], by simp⟩
  · have htaken : (reader.registry.conflicts unit).isEmpty = false := by
      rw [Bool.eq_false_iff, ne_eq, List.isEmpty_iff, Registry.conflicts, List.filter_eq_nil_iff]
      simpa using hfree
    obtain ⟨problem, later, hwarnings, hlater⟩ := warnings_addUnit_of_taken declaration htaken
    exact ⟨_, hwarnings, by simpa using hlater, by simp⟩

/-- Declaring a unit reports something, or it adds the unit with all its names. -/
theorem reports_declareUnit (reader : Reader) {declaration : Declaration}
    (valid : declaration.Valid) {quantity : Quantity} {factor : Float}
    (hquantity : declaration.quantity? = some quantity)
    (hfactor : declaration.factor? = some factor) :
    Reports declaration.line
      (∃ unit, (reader.declareUnit declaration quantity factor).registry.units =
          reader.registry.units ++ [unit] ∧
        describe declaration.name declaration.setting? = some unit.description)
      reader (reader.declareUnit declaration quantity factor) := by
  obtain ⟨unit, hunit, hdescription⟩ := Declaration.exists_unit_eq_ok valid hquantity hfactor
  unfold declareUnit
  cases hjoined : Declaration.joinNames [declaration.name] declaration.aliases with
  | mk names repeated =>
    have hrepeated := reports_foldl_warn reader declaration.line
      (.repeatedName declaration.name) repeated
    obtain ⟨hregistry, -⟩ := registry_current_foldl_warn reader declaration.line
      (.repeatedName declaration.name) repeated
    rw [hjoined] at hunit
    dsimp only at hunit hregistry ⊢
    rw [hunit]
    refine hrepeated.trans ((reports_addUnit _ declaration unit).imp fun hadded => ?_)
    rw [hregistry] at hadded
    refine ⟨unit, hadded, ?_⟩
    rw [hdescription]
    exact Declaration.describe_eq_described hquantity hfactor

/-- Closing a declaration reports something about its header, or it adds its unit with all its
names. -/
theorem reports_finish {declaration : Declaration} (hopen : reader.current = some declaration)
    (valid : declaration.Valid) :
    Reports declaration.line
      (∃ unit, reader.finish.registry.units = reader.registry.units ++ [unit] ∧
        describe declaration.name declaration.setting? = some unit.description)
      reader reader.finish := by
  unfold finish
  rw [hopen]
  dsimp only
  cases hquantity : declaration.quantity? with
  | none => exact reports_warn { reader with current := none } declaration.line _ _
  | some quantity =>
    cases hfactor : declaration.factor? with
    | none => exact reports_warn { reader with current := none } declaration.line _ _
    | some factor =>
      exact reports_declareUnit { reader with current := none } valid hquantity hfactor

/-- Where nothing is open there is nothing to close. -/
theorem finish_of_none (h : reader.current = none) : reader.finish = reader := by
  unfold finish
  rw [h]

/-- What is known after lines that were read: where the warnings and the open declaration come from,
and that no field is set twice. -/
structure ReadUpTo (before : List String) (reader : Reader) : Prop where
  /-- The warnings are about these lines. -/
  warnings : ∀ warning ∈ reader.warnings, 1 ≤ warning.line ∧ warning.line ≤ before.length
  /-- The open declaration starts at one of these lines. -/
  header : ∀ declaration, reader.current = some declaration → 1 ≤ declaration.line ∧
    ∃ header, before[declaration.line - 1]? = some header ∧
      headerName? header = some declaration.name
  /-- Its fields have values that a unit may have. -/
  valid : ∀ declaration, reader.current = some declaration → declaration.Valid
  /-- Each of its fields is set once. -/
  distinct : ∀ declaration, reader.current = some declaration →
    (declaration.settings.map Setting.field).Nodup

variable {before : List String}

/-- At the start no line was read. -/
theorem readUpTo_initial : initial.ReadUpTo [] where
  warnings := by simp [initial]
  header := by simp [initial]
  valid := by simp [initial]
  distinct := by simp [initial]

/-- The header of the open declaration is one of the lines that were read. -/
theorem ReadUpTo.line_le (read : reader.ReadUpTo before) {declaration : Declaration}
    (hopen : reader.current = some declaration) : declaration.line ≤ before.length := by
  obtain ⟨hline, header, hheader, -⟩ := read.header declaration hopen
  have hindex := (List.getElem?_eq_some_iff.mp hheader).1
  omega

/-- There is no warning yet about a line that is not read yet. -/
theorem ReadUpTo.about_eq_nil (read : reader.ReadUpTo before) (number : Nat)
    (h : before.length < number) : reader.about number = [] := by
  rw [about, List.filter_eq_nil_iff]
  intro warning hin
  have hline := (read.warnings warning hin).2
  simp only [beq_iff_eq]
  omega

/-- Closing what is open has warnings about lines that were read. -/
theorem ReadUpTo.finish (read : reader.ReadUpTo before) : reader.finish.ReadUpTo before where
  warnings := by
    cases hopen : reader.current with
    | none =>
      rw [finish_of_none hopen]
      exact read.warnings
    | some declaration =>
      obtain ⟨added, hadded, hlines, -⟩ := reports_finish hopen (read.valid declaration hopen)
      rw [hadded]
      intro warning hin
      rcases List.mem_append.mp hin with hold | hnew
      · exact read.warnings warning hold
      · rw [hlines warning hnew]
        exact ⟨(read.header declaration hopen).1, read.line_le hopen⟩
  header := by simp
  valid := by simp
  distinct := by simp

/-- Further lines may be read. -/
theorem ReadUpTo.append (read : reader.ReadUpTo before) (later : List String) :
    reader.ReadUpTo (before ++ later) where
  warnings := by
    intro warning hin
    obtain ⟨hfirst, hlast⟩ := read.warnings warning hin
    rw [List.length_append]
    omega
  header := by
    intro declaration hopen
    obtain ⟨hline, header, hheader, hname⟩ := read.header declaration hopen
    have hindex := (List.getElem?_eq_some_iff.mp hheader).1
    exact ⟨hline, header, by rw [List.getElem?_append_left hindex, hheader], hname⟩
  valid := read.valid
  distinct := read.distinct

/-- A warning may be added that is about a line that was read. -/
theorem ReadUpTo.warn (read : reader.ReadUpTo before) (hfirst : 1 ≤ line)
    (hlast : line ≤ before.length) (problem : Problem) :
    (reader.warn line problem).ReadUpTo before where
  warnings := by
    intro warning hin
    rcases List.mem_append.mp hin with hold | hnew
    · exact read.warnings warning hold
    · rw [List.mem_singleton.mp hnew]
      exact ⟨hfirst, hlast⟩
  header := read.header
  valid := read.valid
  distinct := read.distinct

end Reader

/-- What becomes of a line that is read with the given number. -/
inductive LineFate (limit : DigitLimit) (reader : Reader) (number : Nat) (text : String) :
    Except TooManyDigits Reader → Prop
  /-- The line is blank and changes nothing. -/
  | blank (blank : isBlankLine text = true) (quiet : reader.about number = []) :
      LineFate limit reader number text (.ok reader)
  /-- The line opens a declaration behind the one that it closes, and there is no warning about the
  line. -/
  | opens {name : String} {after : Reader} (header : headerName? text = some name)
      (takes : after = { reader.finish with current := some ⟨name, number, []⟩ })
      (quiet : after.about number = []) : LineFate limit reader number text (.ok after)
  /-- The line sets a field of the open declaration that was not set, and there is no warning about
  the line. -/
  | sets {declaration : Declaration} {setting : Setting} {after : Reader}
      (isOpen : reader.current = some declaration) (new : declaration.sets setting.field = false)
      (makes : settingOn? limit setting.field text = some setting)
      (takes : after = { reader with
        current := some { declaration with settings := declaration.settings ++ [setting] } })
      (quiet : after.about number = []) : LineFate limit reader number text (.ok after)
  /-- There is one warning about the line, and it changes nothing. -/
  | skipped {problem : Problem} {after : Reader} (noGroup : opensGroup text = false)
      (takes : after = reader.warn number problem)
      (once : after.about number = [⟨number, problem⟩]) :
      LineFate limit reader number text (.ok after)
  /-- There is one warning about the line, which is a header that closes what is open. -/
  | broken {problem : Problem} {after : Reader} (group : opensGroup text = true)
      (takes : after = reader.finish.warn number problem)
      (once : after.about number = [⟨number, problem⟩]) :
      LineFate limit reader number text (.ok after)
  /-- The line would set the exponent of prefixes, and its integer has too many digits. -/
  | overlong {declaration : Declaration} {failure : TooManyDigits}
      (isOpen : reader.current = some declaration) (new : declaration.sets .dimensions = false)
      (long : IsOverlong limit text) : LineFate limit reader number text (.error failure)

namespace Reader

variable {limit : DigitLimit} {reader : Reader} {before : List String} {text : String}

/-- A line that is not read yet gets its first warning. -/
theorem about_warn {number : Nat} (h : reader.about number = []) (problem : Problem) :
    (reader.warn number problem).about number = [⟨number, problem⟩] := by
  unfold about at h ⊢
  unfold Reader.warn
  rw [List.filter_append, h]
  simp

/-- Every line has one of the fates. -/
theorem ReadUpTo.lineFate_feed (read : reader.ReadUpTo before) (limit : DigitLimit)
    (text : String) : LineFate limit reader (before.length + 1) text
      (reader.feed limit (before.length + 1) text) := by
  have hcloses := closes_ofLine text
  have hname := name?_ofLine text
  have hquiet := read.about_eq_nil (before.length + 1) (by omega)
  have hfinish := read.finish.about_eq_nil (before.length + 1) (by omega)
  unfold feed
  cases hentry : Entry.ofLine text with
  | blank => exact .blank (isBlankLine_of_ofLine hentry) hquiet
  | faulty problem =>
    rw [hentry] at hcloses
    exact .skipped hcloses.symm rfl (about_warn hquiet problem)
  | brokenHeader problem =>
    rw [hentry] at hcloses
    exact .broken hcloses.symm rfl (about_warn hfinish problem)
  | header name =>
    rw [hentry] at hname
    exact .opens hname.symm rfl hfinish
  | assignment key values =>
    rw [hentry] at hcloses
    dsimp only [take]
    unfold assign
    cases hopen : reader.current with
    | none => exact .skipped hcloses.symm rfl (about_warn hquiet _)
    | some declaration =>
      dsimp only
      cases hkey : Field.ofKey? key with
      | none => exact .skipped hcloses.symm rfl (about_warn hquiet _)
      | some field =>
        dsimp only
        cases hset : declaration.sets field with
        | true =>
          rw [if_pos rfl]
          exact .skipped hcloses.symm rfl (about_warn hquiet _)
        | false =>
          rw [if_neg Bool.false_ne_true]
          cases hread : field.read limit key values with
          | refused fault => exact .skipped hcloses.symm rfl (about_warn hquiet _)
          | accepted setting =>
            have hfield := (Field.read_sound hread).1
            have hmakes : settingOn? limit setting.field text = some setting := by
              rw [← setting?_ofLine, hentry, hfield]
              simp [Entry.setting?, hkey, hread]
            exact .sets hopen (by rw [hfield]; exact hset) hmakes rfl hquiet
          | overlong failure =>
            obtain ⟨rfl, -⟩ := Field.read_eq_overlong_iff.mp hread
            exact .overlong hopen hset
              (isOverlong_iff.mpr ⟨key, values, failure, hentry, hkey, hread⟩)

/-- The setting that a line makes of a field has a value that a unit may have. -/
theorem valid_of_settingOn? {field : Field} {setting : Setting}
    (h : settingOn? limit field text = some setting) : setting.Valid := by
  unfold settingOn? at h
  split at h
  · split at h
    · split at h
      · rename_i hread
        cases h
        exact (Field.read_sound hread).2
      · contradiction
    · contradiction
  · contradiction

variable {after : Reader}

/-- What is known after lines is known after a further line. -/
theorem ReadUpTo.feed (read : reader.ReadUpTo before)
    (h : reader.feed limit (before.length + 1) text = .ok after) :
    after.ReadUpTo (before ++ [text]) := by
  have hlength : (before ++ [text]).length = before.length + 1 := by simp
  have fate := read.lineFate_feed limit text
  rw [h] at fate
  cases fate with
  | blank => exact read.append [text]
  | @opens name _ hheader takes quiet =>
    subst takes
    have hlast : (before ++ [text])[before.length]? = some text := by simp
    constructor
    · exact (read.finish.append [text]).warnings
    · rintro declaration ⟨⟩
      exact ⟨Nat.le_add_left 1 _, text, hlast, hheader⟩
    · rintro declaration ⟨⟩
      simp [Declaration.Valid]
    · rintro declaration ⟨⟩
      simp
  | @sets declaration setting _ isOpen new makes takes quiet =>
    subst takes
    obtain ⟨hwarnings, hheader, hvalid, hdistinct⟩ := read.append [text]
    constructor
    · exact hwarnings
    · rintro other ⟨⟩
      exact hheader declaration isOpen
    · rintro other ⟨⟩ earlier hin
      rcases List.mem_append.mp hin with hold | hnew
      · exact hvalid declaration isOpen earlier hold
      · rw [List.mem_singleton.mp hnew]
        exact valid_of_settingOn? makes
    · rintro other ⟨⟩
      dsimp only
      rw [List.map_append, List.nodup_append]
      refine ⟨hdistinct declaration isOpen, by simp, ?_⟩
      intro field hfield other hother
      rw [List.map_singleton, List.mem_singleton] at hother
      obtain ⟨earlier, hearlier, rfl⟩ := List.mem_map.mp hfield
      rw [hother]
      intro hsame
      rw [Declaration.sets, List.any_eq_false] at new
      exact new earlier hearlier (by simpa using hsame)
  | skipped noGroup takes once =>
    subst takes
    exact (read.append [text]).warn (by omega) (by omega) _
  | broken group takes once =>
    subst takes
    exact (read.finish.append [text]).warn (by omega) (by omega) _

/-- What each further line keeps of the lines read so far and the reader behind them, further lines
keep. -/
theorem feedLines_induction (kept : List String → Reader → Prop) {lines : List String}
    (step : ∀ before reader text after, kept before reader →
      reader.feed limit (before.length + 1) text = .ok after → kept (before ++ [text]) after)
    (holds : kept before reader)
    (h : reader.feedLines limit (before.length + 1) lines = .ok after) :
    kept (before ++ lines) after := by
  induction lines generalizing reader before with
  | nil =>
    cases h
    rwa [List.append_nil]
  | cons text rest ih =>
    obtain ⟨between, hline, hrest⟩ := Outcome.bind_eq_ok.mp h
    have hlength : (before ++ [text]).length = before.length + 1 := by simp
    rw [List.append_cons]
    exact ih (step before reader text between holds hline) (by rw [hlength]; exact hrest)

/-- What is known after lines is known after further lines. -/
theorem ReadUpTo.feedLines (read : reader.ReadUpTo before) {lines : List String}
    (h : reader.feedLines limit (before.length + 1) lines = .ok after) :
    after.ReadUpTo (before ++ lines) :=
  feedLines_induction (fun before reader => reader.ReadUpTo before)
    (fun _ _ _ _ read hline => read.feed hline) read h

/-- A reader that has read lines from the start knows what is known after them. -/
theorem readUpTo_feedLines (h : initial.feedLines limit 1 before = .ok reader) :
    reader.ReadUpTo before := readUpTo_initial.feedLines h

/-- The reading ends at a line when that is overlong and would set the exponent of prefixes. -/
theorem ReadUpTo.feed_eq_error_iff (read : reader.ReadUpTo before) :
    (∃ failure, reader.feed limit (before.length + 1) text = .error failure) ↔
      ∃ declaration, reader.current = some declaration ∧ declaration.sets .dimensions = false ∧
        IsOverlong limit text := by
  constructor
  · rintro ⟨failure, h⟩
    have fate := read.lineFate_feed limit text
    rw [h] at fate
    cases fate with
    | overlong isOpen new long => exact ⟨_, isOpen, new, long⟩
  · rintro ⟨declaration, isOpen, new, long⟩
    obtain ⟨key, values, failure, hentry, hkey, hread⟩ := isOverlong_iff.mp long
    refine ⟨failure, ?_⟩
    unfold Reader.feed
    rw [hentry]
    dsimp only [take]
    simp only [assign, isOpen, hkey, new, hread, Bool.false_eq_true, if_false]

/-- Lines are not read to their end when the reading ends at one of them. -/
theorem feedLines_eq_error_iff {lines : List String} {number : Nat} :
    (∃ failure, reader.feedLines limit number lines = .error failure) ↔
      ∃ first text later between, lines = first ++ text :: later ∧
        reader.feedLines limit number first = .ok between ∧
        ∃ failure, between.feed limit (number + first.length) text = .error failure := by
  constructor
  · rintro ⟨failure, h⟩
    induction lines generalizing reader number with
    | nil => contradiction
    | cons text rest ih =>
      rcases Outcome.bind_eq_error.mp h with hline | ⟨between, hline, hrest⟩
      · exact ⟨[], text, rest, reader, rfl, rfl, failure, hline⟩
      · obtain ⟨first, later, last, final, rfl, hfirst, hfails⟩ := ih hrest
        have hnumber : number + (text :: first).length = number + 1 + first.length := by
          rw [List.length_cons]
          omega
        refine ⟨text :: first, later, last, final, rfl, ?_, by rw [hnumber]; exact hfails⟩
        exact Outcome.bind_eq_ok.mpr ⟨between, hline, hfirst⟩
  · rintro ⟨first, text, later, between, rfl, hfirst, failure, hfails⟩
    refine ⟨failure, ?_⟩
    rw [feedLines_append, hfirst]
    change between.feedLines limit (number + first.length) (text :: later) = .error failure
    exact Outcome.bind_eq_error.mpr (.inl hfails)

end Reader

/-- A file is loaded unless a line is reached in it that is overlong and would set the exponent of
prefixes. -/
theorem load_eq_error_iff {limit : DigitLimit} {lines : List String} :
    (∃ failure, load limit lines = .error failure) ↔
      ∃ before text later reader declaration, lines = before ++ text :: later ∧
        Reader.initial.feedLines limit 1 before = .ok reader ∧
        reader.current = some declaration ∧ declaration.sets .dimensions = false ∧
        IsOverlong limit text := by
  have hload : ∀ failure, load limit lines = .error failure ↔
      Reader.initial.feedLines limit 1 lines = .error failure := by
    intro failure
    unfold load
    cases Reader.initial.feedLines limit 1 lines with
    | error other => simp [bind, Except.bind]
    | ok reader => simp [bind, Except.bind, pure, Except.pure]
  simp only [hload, Reader.feedLines_eq_error_iff]
  constructor
  · rintro ⟨before, text, later, reader, hlines, hbefore, hfails⟩
    rw [Nat.add_comm] at hfails
    obtain ⟨declaration, hline⟩ := (Reader.readUpTo_feedLines hbefore).feed_eq_error_iff.mp hfails
    exact ⟨before, text, later, reader, declaration, hlines, hbefore, hline⟩
  · rintro ⟨before, text, later, reader, declaration, hlines, hbefore, hline⟩
    have hfails := (Reader.readUpTo_feedLines hbefore).feed_eq_error_iff.mpr ⟨declaration, hline⟩
    rw [Nat.add_comm] at hfails
    exact ⟨before, text, later, reader, hlines, hbefore, hfails⟩

end UnitConversion.UnitsFile

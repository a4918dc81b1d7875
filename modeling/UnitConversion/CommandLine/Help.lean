import UnitConversion.CommandLine.Flag

/-!
# The help text

What the program says about its own use: a synopsis, then a list that explains the options. The text
is laid out for a terminal of eighty columns, the last two of which stay free. The options of the
synopsis go on below the first one where a line is full. In the list no option and no explanation is
too long for a line of its own, so none is broken (`length_le_of_mem_helpLines`).
-/

namespace UnitConversion.CommandLine

open Text

/-- The width of the text. -/
def textWidth : Nat := 78

/-- The column in which explanations start. -/
def explanationColumn : Nat := 24

/-- Blanks. -/
def blanks (count : Nat) : String := String.ofList (List.replicate count ' ')

@[simp]
theorem length_blanks (count : Nat) : (blanks count).length = count := by
  simp [blanks]

namespace Flag

/-- The short name. -/
def shortName? (flag : Flag) : Option String :=
  flag.letter?.map fun letter => "-" ++ letter.toString

/-- What the value of the option is called: in capitals like the option, unless it has a name of its
own or is one of a few, which are listed. -/
def valueName : Flag → String
  | batch | output => "FILE"
  | listUnits => "TYPE"
  | logLevel => "\x7b" ++ ",".intercalate (LogLevel.all.map LogLevel.name) ++ "\x7d"
  | flag => upper flag.word

/-- A name of the option with its value, in brackets when it may be left out. -/
def withValueName (flag : Flag) (name : String) : String :=
  match flag.arity with
  | .withoutValue => name
  | .withOptionalValue => name ++ " [" ++ flag.valueName ++ "]"
  | .withValue => name ++ " " ++ flag.valueName

/-- The option in the synopsis, by its short name if it has one. -/
def shortForm (flag : Flag) : String := flag.withValueName (flag.shortName?.getD flag.longName)

/-- The option in the list, by all its names. -/
def allForms (flag : Flag) : String :=
  ", ".intercalate ((flag.shortName?.toList ++ [flag.longName]).map flag.withValueName)

/-- What the option is for. -/
def explanation : Flag → String
  | help => "show this help message and exit"
  | style .simple => "Print the result only"
  | style .descriptive => "Print the result and its unit"
  | style .verbose => "Print the whole conversion"
  | precision => "Significant digits"
  | config => "Path to settings YAML"
  | units => "Path to unit definitions"
  | logLevel => "Logging level"
  | batch => "Read conversions from FILE, or stdin if omitted"
  | output => "Also write results to FILE"
  | quiet => "Do not print results (use with -o)"
  | listUnits => "List units, optionally of one type"
  | version => "show program's version number and exit"

/-- Only one of the two options may be chosen. -/
def excludes : Flag → Flag → Bool
  | style _, style _ => true
  | _, _ => false

end Flag

section Filling

variable {width : Nat} {row words : List String}

/-- Words on a line. -/
def joined (row : List String) : String := " ".intercalate row

/-- A row that is begun, the words after it put into this and further rows. A row ends where the
next word would not fit. -/
def fillFrom (width : Nat) (row : List String) : List String → List (List String)
  | [] => [row]
  | word :: words =>
    if (joined (row ++ [word])).length ≤ width then fillFrom width (row ++ [word]) words
    else row :: fillFrom width [word] words

/-- Words put into rows. -/
def fill (width : Nat) : List String → List (List String)
  | [] => []
  | word :: words => fillFrom width [word] words

/-- Rows that words are put into. -/
structure IsFilling (width : Nat) (words : List String) (rows : List (List String)) : Prop where
  /-- They hold all the words, in their order. -/
  flatten : rows.flatten = words
  /-- None of them is empty. -/
  nonempty : ∀ row ∈ rows, row ≠ []
  /-- All of them fit. -/
  fits : ∀ row ∈ rows, (joined row).length ≤ width

/-- A row that fits is begun, and no word is too wide for a row of its own. -/
theorem isFilling_fillFrom (hrow : row ≠ []) (hfits : (joined row).length ≤ width)
    (hwords : ∀ word ∈ words, word.length ≤ width) :
    IsFilling width (row ++ words) (fillFrom width row words) := by
  induction words generalizing row with
  | nil => exact ⟨by simp [fillFrom], by simpa [fillFrom], by simpa [fillFrom]⟩
  | cons word words ih =>
    obtain ⟨hword, hwords⟩ := List.forall_mem_cons.mp hwords
    rw [fillFrom]
    split
    case isTrue hroom =>
      rw [List.append_cons]
      exact ih (by simp) hroom hwords
    case isFalse =>
      have hrest := ih (List.cons_ne_nil word []) (by simpa [joined] using hword) hwords
      exact ⟨congrArg (row ++ ·) hrest.flatten, List.forall_mem_cons.mpr ⟨hrow, hrest.nonempty⟩,
        List.forall_mem_cons.mpr ⟨hfits, hrest.fits⟩⟩

/-- Words that fit are put into rows that fit. -/
theorem isFilling_fill (hwords : ∀ word ∈ words, word.length ≤ width) :
    IsFilling width words (fill width words) := by
  cases words with
  | nil => exact ⟨rfl, by simp [fill], by simp [fill]⟩
  | cons word words =>
    obtain ⟨hword, hwords⟩ := List.forall_mem_cons.mp hwords
    exact isFilling_fillFrom (List.cons_ne_nil word []) (by simpa [joined] using hword) hwords

end Filling

/-- Lines behind a head, the first one beside it and the others below that. -/
def hang (head : String) : List String → List String
  | [] => [head]
  | line :: lines => (head ++ line) :: lines.map (blanks head.length ++ ·)

/-- Lines behind a head fit if there is room for the head beside each of them. -/
theorem length_le_of_mem_hang {width : Nat} {head : String} {lines : List String}
    (hhead : head.length ≤ width) (hlines : ∀ line ∈ lines, line.length ≤ width - head.length) :
    ∀ line ∈ hang head lines, line.length ≤ width := by
  intro line hline
  cases lines with
  | nil =>
    rw [List.mem_singleton.mp hline]
    exact hhead
  | cons first others =>
    obtain ⟨hfirst, hothers⟩ := List.forall_mem_cons.mp hlines
    rcases List.mem_cons.mp hline with rfl | hline
    · rw [String.length_append]
      omega
    · obtain ⟨other, hother, rfl⟩ := List.mem_map.mp hline
      have := hothers other hother
      rw [String.length_append, length_blanks]
      omega

/-- What the synopsis starts with. -/
def synopsisHead : String := "usage: ucon "

/-- The options in the synopsis. Those that exclude each other stand together. -/
def synopsisOptions : List String :=
  (Flag.all.splitBy Flag.excludes).map fun flags =>
    "[" ++ " | ".intercalate (flags.map Flag.shortForm) ++ "]"

/-- The synopsis. The words of a conversion have their own line. -/
def synopsis : List String :=
  hang synopsisHead
    ((fill (textWidth - synopsisHead.length) synopsisOptions).map joined ++ ["[conversion ...]"])

/-- A form and its explanation, on one line if the form ends before the column of explanations. -/
def explained (form explanation : String) : List String :=
  if form.length + 4 ≤ explanationColumn then
    [blanks 2 ++ form ++ blanks (explanationColumn - (form.length + 2)) ++ explanation]
  else [blanks 2 ++ form, blanks explanationColumn ++ explanation]

/-- A form that fits and an explanation that fits in its column make lines that fit. -/
theorem length_le_of_mem_explained {width : Nat} {form explanation : String}
    (hform : form.length + 2 ≤ width)
    (hexplanation : explanationColumn + explanation.length ≤ width) :
    ∀ line ∈ explained form explanation, line.length ≤ width := by
  intro line hline
  unfold explained at hline
  split at hline
  case isTrue hroom =>
    rw [List.mem_singleton.mp hline]
    simp only [String.length_append, length_blanks]
    omega
  case isFalse =>
    simp only [List.mem_cons, List.not_mem_nil, or_false] at hline
    rcases hline with rfl | rfl
    · rw [String.length_append, length_blanks]
      omega
    · simpa using hexplanation

/-- The lines of the help text. -/
def helpLines : List String :=
  synopsis ++
    ["", "Unit converter", "", "positional arguments:"] ++
    explained "conversion" "VALUE... INPUT_UNIT OUTPUT_UNIT..." ++
    ["", "options:"] ++
    Flag.all.flatMap fun flag => explained flag.allForms flag.explanation

/-- The synopsis fits. -/
theorem length_le_of_mem_synopsis : ∀ line ∈ synopsis, line.length ≤ textWidth := by
  have hfilling : IsFilling (textWidth - synopsisHead.length) synopsisOptions _ :=
    isFilling_fill (by decide +kernel)
  refine length_le_of_mem_hang (by decide) fun line hline => ?_
  rcases List.mem_append.mp hline with hjoined | hlast
  · obtain ⟨row, hrow, rfl⟩ := List.mem_map.mp hjoined
    exact hfilling.fits row hrow
  · rw [List.mem_singleton.mp hlast]
    decide

/-- All options and explanations fit. -/
theorem forms_fit : ∀ flag ∈ Flag.all, flag.allForms.length + 2 ≤ textWidth ∧
    explanationColumn + flag.explanation.length ≤ textWidth := by
  decide +kernel

/-- No line of the help text is wider than the text. -/
theorem length_le_of_mem_helpLines : ∀ line ∈ helpLines, line.length ≤ textWidth := by
  intro line hline
  simp only [helpLines, List.mem_append, List.mem_flatMap] at hline
  obtain (((hsynopsis | htitle) | hwords) | hheading) | ⟨flag, hflag, hoption⟩ := hline
  · exact length_le_of_mem_synopsis line hsynopsis
  · revert line
    decide
  · exact length_le_of_mem_explained (by decide) (by decide) line hwords
  · revert line
    decide
  · obtain ⟨hforms, hexplanation⟩ := forms_fit flag hflag
    exact length_le_of_mem_explained hforms hexplanation line hoption

/-- The help text. -/
def helpText : String := "\n".intercalate helpLines

end UnitConversion.CommandLine

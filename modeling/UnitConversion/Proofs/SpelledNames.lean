import UnitConversion.Proofs.UnitGrammar
import UnitConversion.Proofs.WrittenFields

/-!
# Names that are spelled with escapes

The scan of a line and the reading of a unit expression each remove escapes in their own way, and
the reading starts behind the metric prefix. On the words of console lines the two agree: no word
ends inside an escape, and the name that is read is the text that a scan without delimiters gives.
So a spelling stands for one name, at the console and in a units file, up to the blanks at the ends
of the name: in a units file they are trimmed, those behind a backslash as well.
-/

namespace UnitConversion

namespace Line

variable {isDelimiter : Char → Bool} {chars taken : List Char}

/-- Behind a character other than a backslash, what is left of a text that is taken is taken. -/
theorem Taken.behind {c : Char} (hescape : c ≠ escape)
    (h : Taken isDelimiter true (c :: chars) (c :: chars)) :
    Taken isDelimiter true chars chars := by
  generalize hwhole : c :: chars = whole at h
  cases h with
  | nil => contradiction
  | plain hplain later =>
    obtain ⟨-, rfl⟩ := List.cons.inj hwhole
    exact later
  | escaped hbreak later => exact absurd (List.cons.inj hwhole).1 hescape

/-- Where fewer characters are delimiters, the same texts are taken. -/
theorem Taken.of_fewer {keepEscapes : Bool} {fewer : Char → Bool}
    (hfewer : ∀ c, fewer c = true → isDelimiter c = true)
    (h : Taken isDelimiter keepEscapes chars taken) : Taken fewer keepEscapes chars taken := by
  induction h with
  | nil => exact .nil
  | @plain c rest taken hplain _ ih =>
    refine .plain ?_ ih
    simp only [isMeaningful, Bool.or_eq_false_iff] at hplain ⊢
    refine ⟨hplain.1, ?_⟩
    rw [← Bool.not_eq_true]
    exact fun hdelimiter => by simp [hfewer c hdelimiter] at hplain
  | escaped hbreak _ ih => exact .escaped hbreak ih

/-- Without backslashes a text that is taken adds what is left of it without its escapes. -/
theorem Taken.unescaped (h : Taken isDelimiter true chars taken) :
    ∃ name, UnitExpression.unescape? chars = some name ∧ Taken isDelimiter false chars name := by
  induction h with
  | nil => exact ⟨[], rfl, .nil⟩
  | @plain c rest taken hplain _ ih =>
    obtain ⟨name, hname, later⟩ := ih
    have hescape : c ≠ UnitExpression.escape := by
      rintro rfl
      contradiction
    refine ⟨c :: name, ?_, .plain hplain later⟩
    rw [UnitExpression.unescape?_cons hescape, hname]
    rfl
  | @escaped c rest taken hbreak _ ih =>
    obtain ⟨name, hname, later⟩ := ih
    refine ⟨c :: name, ?_, .escaped hbreak later⟩
    change UnitExpression.unescape? (UnitExpression.escape :: c :: rest) = _
    rw [UnitExpression.unescape?_pair, hname]
    rfl

/-- A text that is taken is scanned into the one token that it adds. -/
theorem tokenize_of_taken {text name : String}
    (h : Taken isDelimiter false text.toList name.toList) :
    tokenize isDelimiter false text = .ok [⟨name, false, 0⟩] := by
  rw [tokenize, ← List.append_nil text.toList, h.scan_append, scan]
  simp [run]

end Line

namespace UnitExpression

open Line (Taken separatesWords endsInEscape isEscaped)

/-- The part of a word that spells a name: what stands behind the metric prefix, or all of it. -/
def nameText (metric : Option MetricPrefix) (word : String) : String :=
  match metric with
  | none => word
  | some _ => String.ofList (word.toList.drop 2)

/-- The letter of a metric prefix is no backslash. -/
theorem letter_ne_escape (metric : MetricPrefix) : metric.letter ≠ escape := by
  cases metric <;> decide

variable {word name : String} {metric : Option MetricPrefix}

/-- The part of a word that spells a name spells the name that is read. -/
theorem spells_nameText (h : read word = .ok (literalOf metric name)) :
    Spells (nameText metric word).toList name := by
  have judges := (holds_iff_judges word (.expression (literalOf metric name))).mp h
  generalize hchars : word.toList = chars at judges
  cases metric with
  | none =>
    cases judges with
    | literal spells _ => rwa [nameText, hchars]
  | some metric =>
    cases judges with
    | prefixed _ spells =>
      rw [nameText, hchars, String.toList_ofList]
      exact spells

/-- The part of a word that spells a name is taken as a whole, as the word is. -/
theorem taken_nameText (hword : Taken separatesWords true word.toList word.toList)
    (h : read word = .ok (literalOf metric name)) :
    Taken separatesWords true (nameText metric word).toList (nameText metric word).toList := by
  cases metric with
  | none => exact hword
  | some metric =>
    have judges := (holds_iff_judges word (.expression (.prefixed metric name))).mp h
    generalize hchars : word.toList = chars at judges
    cases judges with
    | prefixed _ spells =>
      rw [hchars] at hword
      rw [nameText, hchars, String.toList_ofList]
      exact (hword.behind (by decide)).behind (letter_ne_escape metric)

/-- Taken as a whole, a text that spells a name adds the name where backslashes are dropped. -/
theorem taken_of_spells {isDelimiter : Char → Bool} {body : List Char}
    (hbody : Taken isDelimiter true body body) (spells : Spells body name) :
    Taken isDelimiter false body name.toList := by
  obtain ⟨left, hleft, htaken⟩ := hbody.unescaped
  rw [unescape?_eq, if_neg (by simp [spells.whole]), ← spells.name, Option.some.injEq] at hleft
  rwa [hleft]

/-- A name that is read is the one token of the part of the word that spells it. -/
theorem tokenize_nameText {word name : String} {metric : Option MetricPrefix}
    (hword : Taken separatesWords true word.toList word.toList)
    (h : read word = .ok (literalOf metric name)) :
    Line.tokenize (fun _ => false) false (nameText metric word) = .ok [⟨name, false, 0⟩] := by
  have hbody : Taken (fun _ => false) true (nameText metric word).toList
      (nameText metric word).toList := (taken_nameText hword h).of_fewer (by simp)
  exact Line.tokenize_of_taken (taken_of_spells hbody (spells_nameText h))

/-- A word has no name where it needs one when nothing stands behind the sign of a metric prefix, or
behind the prefix, and in no other case: no word ends inside an escape. -/
theorem word_of_nameMissing (hword : Line.IsWord word) {detail : Option String}
    (h : read word = .error (.nameMissing word detail)) :
    word = "_" ∨ ∃ metric : MetricPrefix, word = "_" ++ metric.text := by
  obtain ⟨hnonempty, htaken⟩ := hword.taken
  have hchars : String.ofList word.toList = word := String.ofList_toList
  have judges := (holds_iff_judges word .nameMissing).mp ⟨detail, h⟩
  generalize word.toList = chars at htaken hchars judges
  cases judges with
  | empty => exact absurd hchars.symm hnonempty
  | bareSign => exact .inl hchars.symm
  | barePrefix metric => exact .inr ⟨metric, by rw [← hchars]; cases metric <;> rfl⟩
  | dangling _ _ ends =>
    rw [(htaken.whole rfl).2.1] at ends
    contradiction
  | danglingPrefixed metric _ ends =>
    have hbody := (htaken.behind (by decide)).behind (letter_ne_escape metric)
    rw [(hbody.whole rfl).2.1] at ends
    contradiction

/-- Reading a word never fails for an escape at its end. -/
theorem read_ne_dangling (hword : Line.IsWord word) :
    read word ≠ .error (.nameMissing word (some s!"'{word}' ends with an escape")) := by
  intro h
  rcases word_of_nameMissing hword h with rfl | ⟨metric, rfl⟩
  · exact absurd h (by decide)
  · cases metric <;> exact absurd h (by decide)

end UnitExpression

namespace UnitsFile

open Text UnitExpression

/-- The characters that have a meaning in a units file stand behind backslashes in the text. -/
def EscapesDelimiters (text : String) : Prop :=
  ∀ position c, text.toList[position]? = some c → isDelimiter c = true →
    Line.isEscaped text.toList position = true

/-- In a units file the text is the name without the blanks at its ends. -/
structure NamesInFile (text name : String) : Prop where
  /-- In a header; a header needs a name. -/
  inHeader : Entry.ofLine ("[" ++ text ++ "]") =
    if (trim name).isEmpty then .brokenHeader .namelessHeader else .header (trim name)
  /-- Among aliases, whatever stands before it and behind it. -/
  inAliases : ∀ before texts after others, List.Forall₂ WritesText before texts →
    List.Forall₂ WritesText after others →
      Entry.ofLine (fieldLine "aliases" (before ++ text :: after)) =
        .assignment "aliases" ((texts ++ name :: others).map trim)

/-- What is written for a text is that text in a units file. -/
theorem namesInFile_of_writesText {text name : String} (h : WritesText text name) :
    NamesInFile text name where
  inHeader := ofLine_bracketed h
  inAliases := by
    intro before texts after others hbefore hafter
    have hkey : Field.ofKey? "aliases" = some .aliases := by decide
    cases hbefore with
    | nil => exact ofLine_fieldLine hkey h hafter
    | cons hfirst hlater =>
      exact ofLine_fieldLine hkey hfirst (List.rel_append hlater (.cons h hafter))

/-- With backslashes before what has a meaning in a units file as well, the part of a word that
spells a name is written for it. -/
theorem writesText_nameText {word name : String} {metric : Option MetricPrefix}
    (hword : Line.Taken Line.separatesWords true word.toList word.toList)
    (hread : read word = .ok (literalOf metric name))
    (hdelimiters : EscapesDelimiters (nameText metric word)) :
    WritesText (nameText metric word) name := by
  obtain ⟨hbreaks, hcloses, hplain⟩ := (taken_nameText hword hread).whole rfl
  refine taken_of_spells (Line.taken_of_whole hbreaks hcloses fun position c hfound hmeaning => ?_)
    (spells_nameText hread)
  refine ⟨?_, (hplain position c hfound hmeaning).2⟩
  by_contra hdelimiter
  rw [Bool.not_eq_false] at hdelimiter
  rw [hdelimiters position c hfound hdelimiter] at hmeaning
  contradiction

end UnitsFile

namespace UnitExpression

/-- The scan of lines and the reading of expressions remove the same escapes from the word. -/
structure EscapesAgree (word : String) : Prop where
  /-- Reading the word does not fail for an escape at its end. -/
  closed : read word ≠ .error (.nameMissing word (some s!"'{word}' ends with an escape"))
  /-- A name is missing only behind the sign of a metric prefix or behind the prefix. -/
  bare : ∀ detail, read word = .error (.nameMissing word detail) →
    word = "_" ∨ ∃ metric : MetricPrefix, word = "_" ++ metric.text
  /-- A name is the one token of the word. -/
  literal : ∀ name, read word = .ok (.literal name) →
    Line.tokenize (fun _ => false) false word = .ok [⟨name, false, 0⟩]
  /-- A name behind a metric prefix is the one token of the word without its first two
  characters. -/
  prefixed : ∀ metric name, read word = .ok (.prefixed metric name) →
    Line.tokenize (fun _ => false) false (String.ofList (word.toList.drop 2)) =
      .ok [⟨name, false, 0⟩]
  /-- What spells a name is the same name in a units file, without the blanks at its ends, when
  backslashes stand before all that has a meaning there. -/
  inFile : ∀ metric name, read word = .ok (literalOf metric name) →
    UnitsFile.EscapesDelimiters (nameText metric word) →
      UnitsFile.NamesInFile (nameText metric word) name

/-- Lines and expressions agree on the escapes in every word of a line. -/
theorem escapes_agree {line word : String} {words : List String}
    (hline : Line.words line = .ok words) (hin : word ∈ words) : EscapesAgree word := by
  have hword : Line.IsWord word := ⟨line, words, hline, hin⟩
  obtain ⟨-, htaken⟩ := hword.taken
  constructor
  · exact read_ne_dangling hword
  · exact fun detail => word_of_nameMissing hword
  · intro name hread
    have hliteral : read word = .ok (literalOf none name) := hread
    have htoken := tokenize_nameText htaken hliteral
    exact htoken
  · intro metric name hread
    have hprefixed : read word = .ok (literalOf (some metric) name) := hread
    have htoken := tokenize_nameText htaken hprefixed
    exact htoken
  · exact fun metric name hread hdelimiters =>
      UnitsFile.namesInFile_of_writesText
        (UnitsFile.writesText_nameText htaken hread hdelimiters)

/-- So they do on a word with a metric prefix, a run of backslashes, a blank and a number sign. -/
theorem escapes_agree_prefixed :
    Line.words "1 _k\\\\\\ \\#m cm # size" = .ok ["1", "_k\\\\\\ \\#m", "cm"] ∧
      read "_k\\\\\\ \\#m" = .ok (.prefixed .kilo "\\ #m") ∧ EscapesAgree "_k\\\\\\ \\#m" := by
  have hline : Line.words "1 _k\\\\\\ \\#m cm # size" = .ok ["1", "_k\\\\\\ \\#m", "cm"] := by
    decide +kernel
  exact ⟨hline, by decide +kernel, escapes_agree hline (by simp)⟩

/-- A blank behind a backslash belongs to a name that is typed and not to the one in a units file:
the two spellings are the same, and the unit is not found. -/
theorem escaped_blank_spells_two_names :
    Line.words "1 \\ in mm" = .ok ["1", "\\ in", "mm"] ∧
      read "\\ in" = .ok (.literal " in") ∧
      UnitsFile.headerName? "[\\ in]" = some "in" ∧
      (UnitsFile.load Text.digitLimit
          ["[\\ in]", "type = length", "conv_factor = 2"]).map
        (fun loaded => (loaded.registry.units.map MeasureUnit.names,
          (loaded.registry.lookup " in").isNone)) = .ok ([["in"]], true) := by
  decide +kernel

end UnitExpression

end UnitConversion

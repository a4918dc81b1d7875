import UnitConversion.Proofs.Escapes
import UnitConversion.Proofs.UnitWords

/-!
# The grammar of unit expressions

Which words are unit expressions and which expression each one is, and for every other word why it
is refused. A name is spelled by characters that end in no escape and do not start like a recall;
the backslashes that take a meaning away are not part of it. Whatever an expression is, there is a
word that is read as it.
-/

namespace UnitConversion.UnitExpression

open Line (endsInEscape isEscape isEscaped textBetween)

/-- Without escapes the character behind a backslash is left of the two. -/
theorem unescape?_pair (c : Char) (rest : List Char) :
    unescape? (escape :: c :: rest) = (unescape? rest).map (c :: ·) := by
  rw [unescape?.eq_def]
  rfl

/-- Without escapes any other character is left. -/
theorem unescape?_cons {c : Char} (h : c ≠ escape) (rest : List Char) :
    unescape? (c :: rest) = (unescape? rest).map (c :: ·) := by
  rw [unescape?.eq_def]
  simp only [h, if_false]

/-- Without escapes the characters of a text are left from the position on, unless the text ends in
an escape. -/
theorem unescape?_drop {text rest : List Char} {position : Nat} (hrest : text.drop position = rest)
    (hplain : isEscaped text position = false) :
    unescape? rest =
      if endsInEscape text then none else some (textBetween false text position text.length) := by
  rw [← Line.isEscaped_length]
  induction rest using unescape?.induct generalizing position with
  | case1 =>
    have hlength := List.drop_eq_nil_iff.mp hrest
    have hend : isEscaped text text.length = false := by
      rw [← hplain, isEscaped, isEscaped, List.take_length, List.take_of_length_le hlength]
    rw [hend, Line.textBetween_of_le false text hlength]
    rfl
  | case2 =>
    obtain ⟨hfound, hlater⟩ := Line.getElem?_of_drop hrest
    have hlength := List.drop_eq_nil_iff.mp hlater
    have hposition := (List.getElem?_eq_some_iff.mp hfound).1
    have hend : text.length = position + 1 := by omega
    rw [hend, Line.isEscaped_succ hfound, hplain]
    rfl
  | case3 escaped rest ih =>
    obtain ⟨hfound, hlater⟩ := Line.getElem?_of_drop hrest
    obtain ⟨hnext, hlast⟩ := Line.getElem?_of_drop hlater
    have hlength := (List.getElem?_eq_some_iff.mp hnext).1
    have hescaped : isEscaped text (position + 1) = true := by
      rw [Line.isEscaped_succ hfound, hplain]
      rfl
    have hfirst : isEscape text position = true := by rw [Line.isEscape_eq hfound, hescaped]
    have hsecond : isEscape text (position + 1) = false := by simp [isEscape, hescaped]
    have hbehind : isEscaped text (position + 2) = false := by
      rw [Line.isEscaped_succ hnext, hescaped]
      simp
    rw [unescape?_pair, ih hlast hbehind, Line.textBetween_cons false hfound (by omega),
      Line.textBetween_cons false hnext hlength, hfirst, hsecond]
    split <;> rfl
  | case4 c rest hescape ih =>
    obtain ⟨hfound, hlater⟩ := Line.getElem?_of_drop hrest
    have hlength := (List.getElem?_eq_some_iff.mp hfound).1
    have hother : c ≠ Line.escape := hescape
    have hbehind : isEscaped text (position + 1) = false := by
      rw [Line.isEscaped_succ hfound]
      simp [hother]
    have hkept : isEscape text position = false := by rw [Line.isEscape_eq hfound, hbehind]
    rw [unescape?_cons hescape, ih hlater hbehind, Line.textBetween_cons false hfound hlength,
      hkept]
    split <;> rfl

/-- Without escapes the characters of a text are left, unless it ends in an escape. -/
theorem unescape?_eq (text : List Char) : unescape? text =
    if endsInEscape text then none else some (textBetween false text 0 text.length) :=
  unescape?_drop List.drop_zero (Line.isEscaped_zero text)

/-- Without escapes no text but the empty one is empty. -/
theorem eq_nil_of_unescape? {text : List Char} (h : unescape? text = some []) : text = [] := by
  cases text with
  | nil => rfl
  | cons c rest =>
    unfold unescape? at h
    split at h
    · split at h <;> simp at h
    · simp at h

/-- The characters spell the name. -/
structure Spells (body : List Char) (name : String) : Prop where
  /-- There are some. -/
  nonempty : body ≠ []
  /-- They do not start like a recall. -/
  start : body.head? ≠ some recallSign
  /-- No odd number of backslashes stands at their end. -/
  whole : endsInEscape body = false
  /-- The name is made of them, without the backslashes that take a meaning away. -/
  name : name.toList = textBetween false body 0 body.length

/-- What becomes of a word. -/
inductive Verdict
  /-- It is read as this expression. -/
  | expression (expression : UnitExpression)
  /-- It has no name where it needs one. -/
  | nameMissing
  /-- It has this letter in the place of a metric prefix. -/
  | unknownPrefix (letter : Char)
  /-- It has a name where it takes none. -/
  | nameNotAllowed

/-- The grammar: what becomes of the characters of a word. -/
inductive Judges : List Char → Verdict → Prop
  /-- The sign of a recall. -/
  | recalled : Judges [recallSign] (.expression .recalled)
  /-- The sign of a recall behind a metric prefix. -/
  | prefixedRecall (metric : MetricPrefix) :
    Judges [prefixSign, metric.letter, recallSign] (.expression (.prefixedRecall metric))
  /-- A name that does not start like a metric prefix. -/
  | literal {body : List Char} {name : String} (spells : Spells body name)
    (start : body.head? ≠ some prefixSign) : Judges body (.expression (.literal name))
  /-- A name behind a metric prefix. -/
  | prefixed (metric : MetricPrefix) {body : List Char} {name : String}
    (spells : Spells body name) :
    Judges (prefixSign :: metric.letter :: body) (.expression (.prefixed metric name))
  /-- Nothing. -/
  | empty : Judges [] .nameMissing
  /-- The sign of a metric prefix alone. -/
  | bareSign : Judges [prefixSign] .nameMissing
  /-- A metric prefix alone. -/
  | barePrefix (metric : MetricPrefix) : Judges [prefixSign, metric.letter] .nameMissing
  /-- A name that ends in an escape. -/
  | dangling {body : List Char} (start : body.head? ≠ some recallSign)
    (other : body.head? ≠ some prefixSign) (ends : endsInEscape body = true) :
    Judges body .nameMissing
  /-- A name that ends in an escape behind a metric prefix. -/
  | danglingPrefixed (metric : MetricPrefix) {body : List Char}
    (start : body.head? ≠ some recallSign) (ends : endsInEscape body = true) :
    Judges (prefixSign :: metric.letter :: body) .nameMissing
  /-- The sign of a metric prefix before any character that is none, whatever follows. -/
  | unknownPrefix {letter : Char} (other : ∀ metric : MetricPrefix, metric.letter ≠ letter)
    (rest : List Char) : Judges (prefixSign :: letter :: rest) (.unknownPrefix letter)
  /-- The sign of a recall before anything. -/
  | namedRecall (c : Char) (rest : List Char) : Judges (recallSign :: c :: rest) .nameNotAllowed
  /-- The sign of a recall behind a metric prefix and before anything. -/
  | namedPrefixedRecall (metric : MetricPrefix) (c : Char) (rest : List Char) :
    Judges (prefixSign :: metric.letter :: recallSign :: c :: rest) .nameNotAllowed

/-- The verdict on a word is what reading it comes to. -/
def Verdict.Holds (token : String) (outcome : Except ConversionError UnitExpression) :
    Verdict → Prop
  | expression found => outcome = .ok found
  | nameMissing => ∃ detail, outcome = .error (.nameMissing token detail)
  | unknownPrefix letter =>
    outcome = .error (.unknownMetricPrefix (String.singleton letter) token)
  | nameNotAllowed => outcome = .error (.nameNotAllowed token none)

/-- There is one verdict on a word. -/
theorem Verdict.Holds.unique {token : String} {outcome : Except ConversionError UnitExpression}
    {verdict other : Verdict} (h : verdict.Holds token outcome)
    (hother : other.Holds token outcome) : verdict = other := by
  cases verdict <;> cases other <;> simp_all [Holds]

/-- A name is read from the characters that spell it. -/
theorem readName_of_spells {body : List Char} {name : String} (spells : Spells body name)
    (token : String) : readName token body = .ok name := by
  have hname : unescape? body = some name.toList := by
    rw [unescape?_eq, if_neg (by simp [spells.whole]), spells.name]
  have hcons : ∃ c rest, name.toList = c :: rest := by
    cases hchars : name.toList with
    | nil => exact absurd (eq_nil_of_unescape? (hname.trans (congrArg some hchars))) spells.nonempty
    | cons c rest => exact ⟨c, rest, rfl⟩
  obtain ⟨c, rest, hchars⟩ := hcons
  unfold readName
  rw [hname, hchars]
  dsimp only
  rw [← hchars, String.ofList_toList]

/-- No name is read from characters that end in an escape. -/
theorem readName_of_endsInEscape {body : List Char} (h : endsInEscape body = true)
    (token : String) : ∃ detail, readName token body = .error (.nameMissing token detail) := by
  unfold readName
  rw [unescape?_eq, if_pos h]
  exact ⟨_, rfl⟩

/-- Characters that do not start like a recall and end in no escape spell a name. -/
theorem exists_spells {body : List Char} (nonempty : body ≠ [])
    (start : body.head? ≠ some recallSign) (whole : endsInEscape body = false) :
    ∃ name, Spells body name :=
  ⟨String.ofList (textBetween false body 0 body.length), nonempty, start, whole,
    String.toList_ofList⟩

/-- There is a verdict on every word. -/
theorem exists_judges (chars : List Char) : ∃ verdict, Judges chars verdict := by
  rcases chars with _ | ⟨c, rest⟩
  · exact ⟨_, .empty⟩
  by_cases hrecall : c = recallSign
  · subst hrecall
    cases rest with
    | nil => exact ⟨_, .recalled⟩
    | cons next rest => exact ⟨_, .namedRecall next rest⟩
  by_cases hmetric : c = prefixSign
  · subst hmetric
    rcases rest with _ | ⟨letter, body⟩
    · exact ⟨_, .bareSign⟩
    cases hletter : MetricPrefix.ofLetter? letter with
    | none =>
      refine ⟨_, .unknownPrefix (fun metric hsame => ?_) body⟩
      rw [← hsame, MetricPrefix.ofLetter?_letter] at hletter
      contradiction
    | some metric =>
      rw [← MetricPrefix.letter_of_ofLetter? hletter]
      rcases body with _ | ⟨next, rest⟩
      · exact ⟨_, .barePrefix metric⟩
      by_cases hnext : next = recallSign
      · subst hnext
        cases rest with
        | nil => exact ⟨_, .prefixedRecall metric⟩
        | cons c rest => exact ⟨_, .namedPrefixedRecall metric c rest⟩
      have hstart : (next :: rest).head? ≠ some recallSign := by simpa using hnext
      cases hends : endsInEscape (next :: rest) with
      | true => exact ⟨_, .danglingPrefixed metric hstart hends⟩
      | false =>
        obtain ⟨name, spells⟩ := exists_spells (List.cons_ne_nil _ _) hstart hends
        exact ⟨_, .prefixed metric spells⟩
  have hstart : (c :: rest).head? ≠ some recallSign := by simpa using hrecall
  have hother : (c :: rest).head? ≠ some prefixSign := by simpa using hmetric
  cases hends : endsInEscape (c :: rest) with
  | true => exact ⟨_, .dangling hstart hother hends⟩
  | false =>
    obtain ⟨name, spells⟩ := exists_spells (List.cons_ne_nil _ _) hstart hends
    exact ⟨_, .literal spells hother⟩

/-- A word that starts neither like a recall nor like a metric prefix is read as a name. -/
theorem read_of_plain {token : String} {c : Char} {rest : List Char}
    (hchars : token.toList = c :: rest) (hrecall : c ≠ recallSign) (hmetric : c ≠ prefixSign) :
    read token = (readName token (c :: rest)).map .literal := by
  unfold read
  rw [hchars]
  simp only [hrecall, hmetric, if_false]

/-- Behind a metric prefix stands what is read with it. -/
theorem read_of_metric {token : String} {metric : MetricPrefix} {body : List Char}
    (hchars : token.toList = prefixSign :: metric.letter :: body) :
    read token = readPrefixed token metric body := by
  have hsign : prefixSign ≠ recallSign := by decide
  unfold read
  rw [hchars]
  simp only [hsign, if_true, if_false, MetricPrefix.ofLetter?_letter]

/-- Behind a metric prefix, what does not start like a recall is read as a name. -/
theorem read_of_metric_of_plain {token : String} {metric : MetricPrefix} {c : Char}
    {rest : List Char} (hchars : token.toList = prefixSign :: metric.letter :: c :: rest)
    (hrecall : c ≠ recallSign) :
    read token = (readName token (c :: rest)).map (.prefixed metric) := by
  rw [read_of_metric hchars, readPrefixed]
  simp only [hrecall, if_false]

/-- The verdict of the grammar is what reading a word comes to. -/
theorem Judges.holds {token : String} {verdict : Verdict} (h : Judges token.toList verdict) :
    verdict.Holds token (read token) := by
  generalize hchars : token.toList = chars at h
  have hsign : prefixSign ≠ recallSign := by decide
  cases h with
  | recalled =>
    change read token = _
    unfold read
    rw [hchars]
    rfl
  | prefixedRecall metric =>
    change read token = _
    rw [read_of_metric hchars]
    rfl
  | literal spells start =>
    obtain ⟨c, rest, rfl⟩ := List.exists_cons_of_ne_nil spells.nonempty
    have hrecall : c ≠ recallSign := by simpa using spells.start
    have hmetric : c ≠ prefixSign := by simpa using start
    change read token = _
    rw [read_of_plain hchars hrecall hmetric, readName_of_spells spells]
    rfl
  | prefixed metric spells =>
    rename_i body name
    obtain ⟨c, rest, rfl⟩ := List.exists_cons_of_ne_nil spells.nonempty
    have hrecall : c ≠ recallSign := by simpa using spells.start
    change read token = _
    rw [read_of_metric_of_plain hchars hrecall, readName_of_spells spells]
    rfl
  | empty =>
    unfold read
    rw [hchars]
    exact ⟨_, rfl⟩
  | bareSign =>
    unfold read
    rw [hchars]
    simp only [hsign, if_true, if_false]
    exact ⟨_, rfl⟩
  | barePrefix metric =>
    rw [read_of_metric hchars]
    exact ⟨_, rfl⟩
  | dangling start other ends =>
    cases chars with
    | nil => contradiction
    | cons c rest =>
      have hrecall : c ≠ recallSign := by simpa using start
      have hmetric : c ≠ prefixSign := by simpa using other
      obtain ⟨detail, hname⟩ := readName_of_endsInEscape ends token
      rw [read_of_plain hchars hrecall hmetric, hname]
      exact ⟨detail, rfl⟩
  | danglingPrefixed metric start ends =>
    rename_i body
    cases body with
    | nil => contradiction
    | cons c rest =>
      have hrecall : c ≠ recallSign := by simpa using start
      obtain ⟨detail, hname⟩ := readName_of_endsInEscape ends token
      rw [read_of_metric_of_plain hchars hrecall, hname]
      exact ⟨detail, rfl⟩
  | unknownPrefix other rest =>
    rename_i letter
    have hletter : MetricPrefix.ofLetter? letter = none := by
      cases hfound : MetricPrefix.ofLetter? letter with
      | none => rfl
      | some metric => exact absurd (MetricPrefix.letter_of_ofLetter? hfound) (other metric)
    change read token = _
    unfold read
    rw [hchars]
    simp only [hsign, if_true, if_false, hletter]
  | namedRecall c rest =>
    change read token = _
    unfold read
    rw [hchars]
    rfl
  | namedPrefixedRecall metric c rest =>
    change read token = _
    rw [read_of_metric hchars]
    rfl

/-- Reading a word comes to the verdict of the grammar and to no other. -/
theorem holds_iff_judges (token : String) (verdict : Verdict) :
    verdict.Holds token (read token) ↔ Judges token.toList verdict := by
  constructor
  · intro h
    obtain ⟨other, judges⟩ := exists_judges token.toList
    rw [h.unique judges.holds]
    exact judges
  · exact Judges.holds

/-- The name in an expression. -/
def name? : UnitExpression → Option String
  | literal name | prefixed _ name => some name
  | recalled | prefixedRecall _ => none

/-- The characters of a name with a backslash before each backslash. -/
def escapeBackslashes (chars : List Char) : List Char :=
  chars.flatMap fun c => if c = escape then [escape, c] else [c]

/-- The characters that spell a name: a backslash stands before each backslash, and before a first
character that is the sign of a metric prefix or of a recall. -/
def spelled : List Char → List Char
  | [] => []
  | c :: rest =>
    if c = prefixSign ∨ c = recallSign then escape :: c :: escapeBackslashes rest
    else escapeBackslashes (c :: rest)

/-- An expression as a word. -/
def written : UnitExpression → String
  | recalled => recallWord none
  | prefixedRecall metric => recallWord (some metric)
  | literal name => prefixedWord none (spelled name.toList)
  | prefixed metric name => prefixedWord (some metric) (spelled name.toList)

/-- Without the backslashes before backslashes the characters are back. -/
theorem unescape?_escapeBackslashes (chars : List Char) :
    unescape? (escapeBackslashes chars) = some chars := by
  unfold escapeBackslashes
  induction chars with
  | nil => rfl
  | cons c rest ih =>
    rw [List.flatMap_cons]
    by_cases hescape : c = escape
    · rw [if_pos hescape, List.cons_append, List.singleton_append, unescape?_pair, ih, hescape]
      rfl
    · rw [if_neg hescape, List.singleton_append, unescape?_cons hescape, ih]
      rfl

/-- Without its escapes what spells a name is the name. -/
theorem unescape?_spelled (chars : List Char) : unescape? (spelled chars) = some chars := by
  cases chars with
  | nil => rfl
  | cons c rest =>
    rw [spelled]
    split
    · rw [unescape?_pair, unescape?_escapeBackslashes]
      rfl
    · exact unescape?_escapeBackslashes (c :: rest)

/-- What spells a name starts neither like a metric prefix nor like a recall. -/
theorem head_spelled (chars : List Char) :
    (spelled chars).head? ≠ some prefixSign ∧ (spelled chars).head? ≠ some recallSign := by
  cases chars with
  | nil => simp [spelled]
  | cons c rest =>
    rw [spelled]
    split
    · simp only [List.head?_cons]
      decide
    · rename_i hplain
      rw [not_or] at hplain
      rw [escapeBackslashes, List.flatMap_cons]
      split
      · simp only [List.cons_append, List.head?_cons]
        decide
      · simpa using hplain

/-- What spells a name spells it. -/
theorem spells_spelled {name : String} (h : name ≠ "") : Spells (spelled name.toList) name := by
  have hname := unescape?_spelled name.toList
  have heq := unescape?_eq (spelled name.toList)
  rw [hname] at heq
  constructor
  · intro hempty
    rw [hempty] at hname
    exact h (String.toList_eq_nil_iff.mp (Option.some.inj hname).symm)
  · exact (head_spelled name.toList).2
  · cases hends : endsInEscape (spelled name.toList) with
    | true => simp [hends] at heq
    | false => rfl
  · split at heq
    · contradiction
    · exact Option.some.inj heq

/-- The grammar reads a written expression as that expression. -/
theorem judges_written {expression : UnitExpression}
    (h : ∀ name, expression.name? = some name → name ≠ "") :
    Judges expression.written.toList (.expression expression) := by
  cases expression with
  | recalled => exact .recalled
  | prefixedRecall metric =>
    rw [written, recallWord, prefixedWord, String.toList_ofList]
    exact .prefixedRecall metric
  | literal name =>
    rw [written, prefixedWord, String.toList_ofList]
    exact .literal (spells_spelled (h name rfl)) (head_spelled name.toList).1
  | prefixed metric name =>
    rw [written, prefixedWord, String.toList_ofList]
    exact .prefixed metric (spells_spelled (h name rfl))

/-- Words are read by the grammar: each word has one verdict, and reading the word comes to that.
No name that is read is empty, and an expression whose name is not empty is read back from the word
that it is written as. -/
theorem read_by_grammar :
    (∀ token verdict, verdict.Holds token (read token) ↔ Judges token.toList verdict) ∧
    (∀ token : String, ∃ verdict, Judges token.toList verdict) ∧
    (∀ token expression name, read token = .ok expression → expression.name? = some name →
      name ≠ "") ∧
    ∀ expression : UnitExpression, (∀ name, expression.name? = some name → name ≠ "") →
      read expression.written = .ok expression := by
  refine ⟨holds_iff_judges, fun token => exists_judges token.toList, ?_, ?_⟩
  · intro token expression name hread hname
    obtain ⟨metric, ⟨-, rfl⟩ | ⟨other, hother, rfl⟩⟩ := read_eq_ok hread
    · cases metric <;> simp [recallOf, name?] at hname
    · cases metric <;> simp only [literalOf, name?, Option.some.injEq] at hname <;>
        rw [← hname] <;> exact hother
  · intro expression hnamed
    exact (judges_written hnamed).holds

end UnitConversion.UnitExpression

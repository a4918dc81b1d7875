import UnitConversion.Proofs.LineRuns
import UnitConversion.Proofs.ScannedLines
import UnitConversion.Proofs.Trimming

/-!
# The layout of a line

A line may end in several ways, have blanks at its ends and around its delimiters, and have a
comment. Such changes of a line that scans leave its delimiters and, but for blanks at their ends,
the runs between them. A line that does not scan may still end in several ways.
-/

namespace UnitConversion

open Text

namespace Line

/-- The runs differ in no more than blanks at their ends and the position where they start. -/
structure SameRun (run other : Token) : Prop where
  /-- The first is a run. -/
  first : run.isDelimiter = false
  /-- The second is a run. -/
  second : other.isDelimiter = false
  /-- Without the blanks at their ends they are the same. -/
  text : trim other.text = trim run.text

/-- The tokens have the same delimiters, and between these runs that differ in no more than blanks at
their ends. -/
inductive SameFields : List Token → List Token → Prop
  /-- The last run. -/
  | last {run other : Token} (h : SameRun run other) : SameFields [run] [other]
  /-- A run and the delimiter behind it. -/
  | cut {run other sign mark : Token} {later others : List Token} (h : SameRun run other)
      (hsign : sign.isDelimiter = true) (hmark : mark.isDelimiter = true)
      (htext : mark.text = sign.text) (hlater : SameFields later others) :
      SameFields (run :: sign :: later) (other :: mark :: others)

/-- The line may end in this way. -/
def IsEnding (ending : String) : Prop := ending = "" ∨ ending = "\n" ∨ ending = "\r\n"

/-- There are only spaces and tabs. -/
def IsGap (gap : String) : Prop := ∀ c ∈ gap.toList, separatesWords c = true

/-- A scan of the second text succeeds where one of the first text does, with the same fields. -/
def MayReplace (isDelimiter : Char → Bool) (keepEscapes : Bool) (text other : List Char) : Prop :=
  ∀ column start reversed tokens,
    scan isDelimiter keepEscapes column start reversed text = .ok tokens →
      ∃ others, scan isDelimiter keepEscapes column start reversed other = .ok others ∧
        SameFields tokens others

variable {isDelimiter : Char → Bool} {keepEscapes : Bool} {column start : Nat}
  {reversed chars : List Char} {tokens : List Token}

/-- Runs are the same when their characters are, but for blanks at their ends. -/
theorem sameRun_run {longer : List Char} (h : trimChars longer.reverse = trimChars reversed.reverse)
    (start first : Nat) : SameRun (run start reversed) (run first longer) := by
  refine ⟨rfl, rfl, ?_⟩
  simp only [run, trim, String.toList_ofList, h]

/-- A delimiter is the same wherever it stands. -/
theorem SameFields.cut_run {later others : List Token} {longer : List Char}
    (h : trimChars longer.reverse = trimChars reversed.reverse) (hlater : SameFields later others)
    (start first : Nat) (c : Char) (column position : Nat) :
    SameFields (run start reversed :: ⟨String.singleton c, true, column⟩ :: later)
      (run first longer :: ⟨String.singleton c, true, position⟩ :: others) :=
  .cut (sameRun_run h start first) rfl rfl rfl hlater

/-- A run that began with more blanks, or anywhere else, goes on with the same fields. -/
theorem sameFields_of_scan {longer : List Char}
    (h : scan isDelimiter keepEscapes column start reversed chars = .ok tokens)
    (hsame : ∀ later, trimChars (longer.reverse ++ later) = trimChars (reversed.reverse ++ later))
    (position first : Nat) :
    ∃ others, scan isDelimiter keepEscapes position first longer chars = .ok others ∧
      SameFields tokens others := by
  have hend : ∀ {longer reversed : List Char},
      (∀ later, trimChars (longer.reverse ++ later) = trimChars (reversed.reverse ++ later)) →
        trimChars longer.reverse = trimChars reversed.reverse := by
    intro longer reversed hsame
    simpa using hsame []
  replace h := scanned_of_scan h
  induction h generalizing longer position first with
  | nil => exact ⟨_, Scanned.nil.scan_eq, .last (sameRun_run (hend hsame) _ first)⟩
  | stop hescape hends =>
    exact ⟨_, (Scanned.stop hescape hends).scan_eq, .last (sameRun_run (hend hsame) _ first)⟩
  | escaped hbreak _ ih =>
    rw [scan_escaped hbreak]
    refine ih (fun later => ?_) _ _
    cases keepEscapes <;> simp [hsame]
  | cut hdelimiter hescape hgoes _ ih =>
    obtain ⟨others, hothers, hfields⟩ := ih (fun _ => rfl) (position + 1) (position + 1)
    rw [scan_delimiter hdelimiter hescape hgoes, hothers]
    exact ⟨_, rfl, hfields.cut_run (hend hsame) _ first _ _ position⟩
  | plain hdelimiter hescape hgoes _ ih =>
    rw [scan_plain hdelimiter hescape hgoes]
    refine ih (fun later => ?_) _ _
    simp [hsame]

/-- What a scan gives has the same fields as itself. -/
theorem sameFields_self (h : scan isDelimiter keepEscapes column start reversed chars = .ok tokens) :
    SameFields tokens tokens := by
  obtain ⟨others, hothers, hfields⟩ := sameFields_of_scan h (fun _ => rfl) column start
  rw [h] at hothers
  cases hothers
  exact hfields

/-- Behind a text in which the scan neither stops nor ends, one text may replace another if it may
do so wherever it stands. -/
theorem MayReplace.behind {left taken text other : List Char}
    (hleft : Taken (fun _ => false) true left taken)
    (h : MayReplace isDelimiter keepEscapes text other) :
    MayReplace isDelimiter keepEscapes (left ++ text) (left ++ other) := by
  induction hleft with
  | nil => exact h
  | @plain c rest taken hplain later ih =>
    simp only [isMeaningful, Bool.or_false, Bool.or_eq_false_iff, decide_eq_false_iff_not] at hplain
    obtain ⟨⟨hescape, hcomment⟩, hbreak⟩ := hplain
    have hgoes : (decide (c = comment) || isBreak c) = false := by simp [hcomment, hbreak]
    intro column start reversed tokens hscan
    cases hdelimiter : isDelimiter c with
    | true =>
      rw [List.cons_append, scan_delimiter hdelimiter hescape hgoes] at hscan ⊢
      obtain ⟨before, hbefore, rfl⟩ := Outcome.map_eq_ok.mp hscan
      obtain ⟨others, hothers, hfields⟩ := ih _ _ _ _ hbefore
      rw [hothers]
      exact ⟨_, rfl, hfields.cut_run rfl start start c column column⟩
    | false =>
      rw [List.cons_append, scan_plain hdelimiter hescape hgoes] at hscan ⊢
      exact ih _ _ _ _ hscan
  | @escaped c rest taken hbreak later ih =>
    intro column start reversed tokens hscan
    rw [List.cons_append, List.cons_append, scan_escaped hbreak] at hscan ⊢
    exact ih _ _ _ _ hscan

/-- Spaces and tabs are blanks without a meaning on a line whose delimiters they are not. -/
theorem IsGap.blank {gap : String} (h : IsGap gap) : ∀ c ∈ gap.toList, isBlank c = true := by
  intro c hc
  have hc := h c hc
  simp only [separatesWords, Bool.or_eq_true, decide_eq_true_eq] at hc
  rcases hc with rfl | rfl <;> decide

/-- Spaces and tabs are taken as a whole where they are no delimiters. -/
theorem IsGap.taken {gap : String} (h : IsGap gap)
    (hplain : ∀ c, separatesWords c = true → isDelimiter c = false) :
    Taken isDelimiter keepEscapes gap.toList gap.toList := by
  apply Taken.of_plain
  rw [List.any_eq_false]
  intro c hc
  have hdelimiter := hplain c (h c hc)
  have hc := h c hc
  simp only [separatesWords, Bool.or_eq_true, decide_eq_true_eq] at hc
  rcases hc with rfl | rfl <;> simp [isMeaningful, hdelimiter] <;> decide

section Edits

variable (hplain : ∀ c, separatesWords c = true → isDelimiter c = false)
include hplain

/-- Blanks before a line change no field. -/
theorem scan_gap_append {gap : String} (hgap : IsGap gap)
    (h : scan isDelimiter keepEscapes column start [] chars = .ok tokens) (position first : Nat) :
    ∃ others, scan isDelimiter keepEscapes position first [] (gap.toList ++ chars) = .ok others ∧
      SameFields tokens others := by
  rw [(hgap.taken hplain).scan_append]
  refine sameFields_of_scan h (fun later => ?_) _ _
  simp only [List.append_nil, List.reverse_reverse, List.reverse_nil, List.nil_append]
  exact trimChars_blanks_append hgap.blank later

/-- Blanks on both sides of a delimiter change no field. -/
theorem mayReplace_gaps {c : Char} (hdelimiter : isDelimiter c = true) (hescape : c ≠ escape)
    (hends : (decide (c = comment) || isBreak c) = false) {before after : String}
    (hbefore : IsGap before) (hafter : IsGap after) (rest : List Char) :
    MayReplace isDelimiter keepEscapes (c :: rest)
      (before.toList ++ c :: (after.toList ++ rest)) := by
  intro column start reversed tokens hscan
  rw [scan_delimiter hdelimiter hescape hends] at hscan
  obtain ⟨later, hlater, rfl⟩ := Outcome.map_eq_ok.mp hscan
  obtain ⟨others, hothers, hfields⟩ := scan_gap_append hplain hafter hlater
    (column + before.toList.length + 1) (column + before.toList.length + 1)
  rw [(hbefore.taken hplain).scan_append, scan_delimiter hdelimiter hescape hends, hothers]
  refine ⟨_, rfl, hfields.cut_run ?_ _ _ _ _ _⟩
  rw [List.reverse_append, List.reverse_reverse, trimChars_append_blanks hbefore.blank]

/-- Blanks at the end of a line change no field. -/
theorem mayReplace_append_gap {gap : String} (hgap : IsGap gap) (text : List Char) :
    MayReplace isDelimiter keepEscapes text (text ++ gap.toList) := by
  intro column start reversed tokens h
  replace h := scanned_of_scan h
  induction h with
  | @nil column start reversed =>
    have hgaps : scan isDelimiter keepEscapes column start reversed (gap.toList ++ []) =
        .ok [run start (gap.toList.reverse ++ reversed)] := by
      rw [(hgap.taken hplain).scan_append, scan]
    rw [List.append_nil] at hgaps
    rw [List.nil_append, hgaps]
    refine ⟨_, rfl, .last (sameRun_run ?_ _ _)⟩
    rw [List.reverse_append, List.reverse_reverse, trimChars_append_blanks hgap.blank]
  | @stop column start reversed rest c hescape hends =>
    exact ⟨_, scan_end hescape hends .., .last (sameRun_run rfl start start)⟩
  | escaped hbreak _ ih =>
    rw [List.cons_append, List.cons_append, scan_escaped hbreak]
    exact ih
  | cut hdelimiter hescape hgoes _ ih =>
    obtain ⟨others, hothers, hfields⟩ := ih
    rw [List.cons_append, scan_delimiter hdelimiter hescape hgoes, hothers]
    exact ⟨_, rfl, hfields.cut_run rfl _ _ _ _ _⟩
  | plain hdelimiter hescape hgoes _ ih =>
    rw [List.cons_append, scan_plain hdelimiter hescape hgoes]
    exact ih

end Edits

/-- What stands behind a line break plays no part. -/
theorem scan_append_break {c : Char} {text : List Char} (hbreak : isBreak c = true)
    (rest : List Char) :
    scan isDelimiter keepEscapes column start reversed (text ++ c :: rest) =
      scan isDelimiter keepEscapes column start reversed text := by
  have hescape : c ≠ escape := by
    rintro rfl
    contradiction
  -- The text need not scan, so the induction is on the scan itself.
  induction column, start, reversed, text using scan.induct isDelimiter keepEscapes with
  | case1 column start reversed =>
    rw [List.nil_append, scan_end hescape (by simp [hbreak]), scan]
  | case2 column start reversed =>
    rw [List.singleton_append, scan_dangling (by simp [hbreak]), scan_dangling (by simp)]
  | case3 column start reversed escaped rest hbroken =>
    rw [List.cons_append, List.cons_append, scan_dangling (by simp [hbroken]),
      scan_dangling (by simp [hbroken])]
  | case4 column start reversed escaped rest hbroken _ ih =>
    have hbroken : isBreak escaped = false := by simpa using hbroken
    rw [List.cons_append, List.cons_append, scan_escaped hbroken, scan_escaped hbroken]
    exact ih
  | case5 column start reversed first rest hfirst hends =>
    rw [List.cons_append, scan_end hfirst hends, scan_end hfirst hends]
  | case6 column start reversed first rest hfirst hends hdelimiter ih =>
    have hgoes : (decide (first = comment) || isBreak first) = false := by simpa using hends
    rw [List.cons_append, scan_delimiter hdelimiter hfirst hgoes,
      scan_delimiter hdelimiter hfirst hgoes, ih]
  | case7 column start reversed first rest hfirst hends hdelimiter ih =>
    have hgoes : (decide (first = comment) || isBreak first) = false := by simpa using hends
    have hdelimiter : isDelimiter first = false := by simpa using hdelimiter
    rw [List.cons_append, scan_plain hdelimiter hfirst hgoes, scan_plain hdelimiter hfirst hgoes,
      ih]

/-- On a line that scans, what stands behind a comment plays no part. -/
theorem scan_append_comment
    (h : scan isDelimiter keepEscapes column start reversed chars = .ok tokens)
    (rest : List Char) :
    scan isDelimiter keepEscapes column start reversed (chars ++ comment :: rest) = .ok tokens := by
  apply Scanned.scan_eq
  replace h := scanned_of_scan h
  induction h with
  | nil => exact .stop (by decide) rfl
  | stop hescape hends => exact .stop hescape hends
  | escaped hbreak _ ih => exact .escaped hbreak ih
  | cut hdelimiter hescape hgoes _ ih => exact .cut hdelimiter hescape hgoes ih
  | plain hdelimiter hescape hgoes _ ih => exact .plain hdelimiter hescape hgoes ih

/-- However a line ends, it is scanned alike, also when it ends inside an escape. -/
theorem tokenize_append_ending {ending : String} (h : IsEnding ending) (body : String) :
    tokenize isDelimiter keepEscapes (body ++ ending) = tokenize isDelimiter keepEscapes body := by
  rw [tokenize, tokenize, String.toList_append]
  rcases h with rfl | rfl | rfl
  · rw [String.toList_empty, List.append_nil]
  · exact scan_append_break rfl []
  · exact scan_append_break rfl ['\n']

/-- A comment behind a line that scans is not scanned. -/
theorem tokenize_append_comment {body : String}
    (h : tokenize isDelimiter keepEscapes body = .ok tokens) (text : String) :
    tokenize isDelimiter keepEscapes (body ++ "#" ++ text) = .ok tokens := by
  have hline : (body ++ "#" ++ text).toList = body.toList ++ comment :: text.toList := by
    rw [String.toList_append, String.toList_append, List.append_assoc,
      show "#".toList = [comment] from rfl, List.singleton_append]
  rw [tokenize, hline]
  exact scan_append_comment h text.toList

/-- Before a delimiter that has its meaning, and stands before the place where the scan stops, the
scan neither stops nor ends. -/
theorem taken_of_isCut {left right : List Char} {d : Char}
    (hcut : isCut isDelimiter (left ++ d :: right) left.length = true)
    (hstop : left.length < stop (left ++ d :: right)) : Taken (fun _ => false) true left left := by
  obtain ⟨-, -, -, -, hplain⟩ := exists_of_isCut hcut
  have hsame : left.take left.length = (left ++ d :: right).take left.length := by simp
  have hends : ∀ position c, left[position]? = some c →
      (if isEscaped left position then isBreak c else c == comment || isBreak c) = false := by
    intro position c hfound
    have hlt : position < left.length := (List.getElem?_eq_some_iff.mp hfound).1
    have hgoes := endsAt_of_lt_stop (Nat.lt_trans hlt hstop)
    rw [← endsAt_of_take_eq hsame hlt] at hgoes
    simpa only [endsAt, hfound] using hgoes
  refine taken_of_whole (fun c hc => ?_) ?_ (fun position c hfound hmeaning => ⟨rfl, ?_⟩)
  · obtain ⟨position, hfound⟩ := List.mem_iff_getElem?.mp hc
    have hgoes := hends position c hfound
    split at hgoes
    · exact hgoes
    · simp only [Bool.or_eq_false_iff] at hgoes
      exact hgoes.2
  · rw [← isEscaped_length, isEscaped_of_take_eq hsame (Nat.le_refl _)]
    exact hplain
  · have hgoes := hends position c hfound
    rw [hmeaning] at hgoes
    simp only [Bool.false_eq_true, if_false, Bool.or_eq_false_iff, beq_eq_false_iff_ne] at hgoes
    exact hgoes.1

end Line

end UnitConversion

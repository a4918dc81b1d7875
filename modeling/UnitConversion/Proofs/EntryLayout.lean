import Mathlib.Logic.Relation
import UnitConversion.Proofs.HeaderLines
import UnitConversion.Proofs.LineLayout

/-!
# The layout of what a line says

What a line of a units file says depends on its delimiters and on the runs between them, the blanks
at their ends taken away. So it stays the same when the layout of the line changes, but for the echo
of a line that is not recognized.
-/

namespace UnitConversion.UnitsFile

open Text
open Line (SameRun SameFields IsEnding IsGap)

/-- The entries are the same, or both say that their lines are not recognized. -/
def Entry.Alike (entry other : Entry) : Prop :=
  other = entry ∨
    ∃ old new, entry = .faulty (.unrecognized old) ∧ other = .faulty (.unrecognized new)

/-- One change of the layout of a line. -/
inductive Relaid : String → String → Prop
  /-- The line ends in another way. -/
  | ending {old new : String} (hold : IsEnding old) (hnew : IsEnding new) (body : String) :
      Relaid (body ++ old) (body ++ new)
  /-- Blanks before a line that scans. -/
  | front {line gap : String} (hscans : scans line = true) (hgap : IsGap gap) :
      Relaid line (gap ++ line)
  /-- Blanks at the end of a line that scans. -/
  | back {body ending gap : String} (hscans : scans (body ++ ending) = true)
      (hending : IsEnding ending) (hgap : IsGap gap) :
      Relaid (body ++ ending) (body ++ gap ++ ending)
  /-- Blanks on both sides of a delimiter that has its meaning, before the place where the scan of
  the line stops, that is, before its comment. -/
  | beside {left right before after : String} {d : Char}
      (hscans : scans (left ++ String.singleton d ++ right) = true)
      (hcut : Line.isCut isDelimiter (left ++ String.singleton d ++ right).toList
        left.toList.length = true)
      (hstop : left.toList.length < Line.stop (left ++ String.singleton d ++ right).toList)
      (hbefore : IsGap before) (hafter : IsGap after) :
      Relaid (left ++ String.singleton d ++ right)
        (left ++ before ++ String.singleton d ++ after ++ right)
  /-- A comment at the end of a line that scans. -/
  | comment {body ending : String} (hscans : scans (body ++ ending) = true)
      (hending : IsEnding ending) (text : String) :
      Relaid (body ++ ending) (body ++ "#" ++ text ++ ending)

/-- The line holds nothing but blanks and, perhaps, a comment. -/
def IsVoid (line : String) : Prop :=
  ∃ blanks rest, line.toList = blanks ++ rest ∧ (∀ c ∈ blanks, isBlank c = true) ∧
    (rest = [] ∨ rest.head? = some Line.comment)

variable {entry other third : Entry} {tokens others : List Token} {line body : String}

/-- Entries that are alike one and the same entry are alike. -/
theorem Entry.Alike.trans (h : Entry.Alike entry other) (hlater : Entry.Alike other third) :
    Entry.Alike entry third := by
  rcases h with rfl | ⟨old, new, rfl, rfl⟩
  · exact hlater
  · rcases hlater with rfl | ⟨_, last, -, rfl⟩
    · exact .inr ⟨old, new, rfl, rfl⟩
    · exact .inr ⟨old, last, rfl, rfl⟩

section Fields

/-- Runs that are the same are blank together. -/
theorem isBlank_of_sameRun {run other : Token} (h : SameRun run other) :
    other.isBlank = run.isBlank := by
  rw [Token.isBlank, Token.isBlank, h.first, h.second, h.text]

/-- The same fields have the same values. -/
theorem valuesOf_of_sameFields (h : SameFields tokens others) :
    valuesOf others = valuesOf tokens := by
  unfold valuesOf
  induction h with
  | last h => simp [h.first, h.second, h.text]
  | cut h hsign hmark _ _ ih => simp [h.first, h.second, h.text, hsign, hmark, ih]

/-- In the same fields the first delimiter that is no comma is the same. -/
theorem stray_of_sameFields (h : SameFields tokens others) :
    (others.find? fun token => token.isDelimiter && token.text != ",").map Token.text =
      (tokens.find? fun token => token.isDelimiter && token.text != ",").map Token.text := by
  induction h with
  | last h => simp [h.first, h.second]
  | @cut run other sign mark later others h hsign hmark htext _ ih =>
    simp only [List.find?_cons, h.first, h.second, hsign, hmark, htext, Bool.false_and,
      Bool.true_and]
    cases hcomma : sign.text != "," with
    | true => exact congrArg some htext
    | false => exact ih

/-- The same fields make the same header. -/
theorem ofHeader_of_sameFields (h : SameFields tokens others) :
    Entry.ofHeader others = Entry.ofHeader tokens := by
  -- Only five tokens may be a header; there are fewer when a delimiter is the last but one or but
  -- three, and more when there is a third delimiter.
  cases h with
  | last _ => rfl
  | cut _ _ _ _ hlater =>
    cases hlater with
    | last _ => rfl
    | cut hname _ _ htext hlater =>
      cases hlater with
      | last hlast =>
        simp only [Entry.ofHeader, hname.first, hname.second, hname.text, htext,
          isBlank_of_sameRun hlast]
      | cut _ _ _ _ hlater => cases hlater <;> rfl

/-- The same key and the same fields make the same assignment. -/
theorem ofAssignment_of_sameFields {keyText otherText : String}
    (hkey : trim otherText = trim keyText) (h : SameFields tokens others) :
    Entry.ofAssignment otherText others = Entry.ofAssignment keyText tokens := by
  have hvalues := valuesOf_of_sameFields h
  have hstray := stray_of_sameFields h
  unfold valuesOf at hvalues
  unfold Entry.ofAssignment
  rw [hkey, hvalues]
  cases hold : tokens.find? fun token => token.isDelimiter && token.text != "," with
  | none =>
    rw [hold, Option.map_none, Option.map_eq_none_iff] at hstray
    rw [hstray]
  | some sign =>
    rw [hold, Option.map_some, Option.map_eq_some_iff] at hstray
    obtain ⟨mark, hnew, htext⟩ := hstray
    rw [hnew]
    dsimp only
    rw [htext]

/-- The same fields make entries that are alike. -/
theorem alike_ofTokens (h : SameFields tokens others) (line other : String) :
    Entry.Alike (Entry.ofTokens line tokens) (Entry.ofTokens other others) := by
  have hunrecognized : Entry.Alike (.faulty (.unrecognized line)) (.faulty (.unrecognized other)) :=
    .inr ⟨line, other, rfl, rfl⟩
  cases h with
  | last hrun =>
    simp only [Entry.ofTokens, isBlank_of_sameRun hrun]
    split
    · exact .inl rfl
    · exact hunrecognized
  | cut hrun hsign hmark htext hlater =>
    simp only [Entry.ofTokens, isBlank_of_sameRun hrun, htext]
    split
    · exact .inl (ofHeader_of_sameFields (.cut hrun hsign hmark htext hlater))
    · split
      · exact .inl (ofAssignment_of_sameFields hrun.text hlater)
      · exact hunrecognized

end Fields

/-- A line that scans makes an entry that is like that of every line with the same fields. -/
theorem alike_ofLine {other : String} (h : Line.tokenize isDelimiter false line = .ok tokens)
    (hfields : ∃ others, Line.tokenize isDelimiter false other = .ok others ∧
      SameFields tokens others) :
    Entry.Alike (Entry.ofLine line) (Entry.ofLine other) := by
  obtain ⟨others, hothers, hsame⟩ := hfields
  unfold Entry.ofLine
  rw [h, hothers]
  exact alike_ofTokens hsame line other

/-- Lines that are scanned alike make entries that are alike. -/
theorem alike_ofLine_of_tokenize_eq {other : String}
    (h : Line.tokenize isDelimiter false other = Line.tokenize isDelimiter false line) :
    Entry.Alike (Entry.ofLine line) (Entry.ofLine other) := by
  cases hscan : Line.tokenize isDelimiter false line with
  | error failure =>
    left
    unfold Entry.ofLine
    rw [h, hscan]
  | ok tokens =>
    rw [hscan] at h
    exact alike_ofLine hscan ⟨tokens, h, Line.sameFields_self hscan⟩

/-- A line scans when it comes to tokens. -/
theorem exists_of_scans (h : scans line = true) :
    ∃ tokens, Line.tokenize isDelimiter false line = .ok tokens := by
  unfold scans at h
  cases hscan : Line.tokenize isDelimiter false line with
  | error failure => simp [hscan, Except.isOk, Except.toBool] at h
  | ok tokens => exact ⟨tokens, rfl⟩

/-- Spaces and tabs are no delimiters of a units file. -/
theorem isDelimiter_of_separatesWords (c : Char) (h : Line.separatesWords c = true) :
    isDelimiter c = false := by
  simp only [Line.separatesWords, Bool.or_eq_true, decide_eq_true_eq] at h
  rcases h with rfl | rfl <;> rfl

/-- A delimiter of a units file is no backslash, starts no comment and ends no line. -/
theorem plain_of_isDelimiter {c : Char} (h : isDelimiter c = true) :
    c ≠ Line.escape ∧ (decide (c = Line.comment) || Line.isBreak c) = false := by
  simp only [isDelimiter, Bool.or_eq_true, decide_eq_true_eq] at h
  rcases h with ((rfl | rfl) | rfl) | rfl <;> exact ⟨by decide, rfl⟩

/-- A change of the layout of a line keeps what it says. -/
theorem Relaid.alike {old new : String} (h : Relaid old new) :
    Entry.Alike (Entry.ofLine old) (Entry.ofLine new) := by
  cases h with
  | ending hold hnew body =>
    apply alike_ofLine_of_tokenize_eq
    rw [Line.tokenize_append_ending hold, Line.tokenize_append_ending hnew]
  | front hscans hgap =>
    obtain ⟨tokens, hscan⟩ := exists_of_scans hscans
    refine alike_ofLine hscan ?_
    rw [Line.tokenize, String.toList_append]
    exact Line.scan_gap_append isDelimiter_of_separatesWords hgap hscan 0 0
  | @back body ending gap hscans hending hgap =>
    obtain ⟨tokens, hscan⟩ := exists_of_scans hscans
    refine alike_ofLine hscan ?_
    rw [Line.tokenize_append_ending hending] at hscan ⊢
    rw [Line.tokenize, String.toList_append]
    exact Line.mayReplace_append_gap isDelimiter_of_separatesWords hgap body.toList 0 0 [] tokens
      hscan
  | @beside left right before after d hscans hcut hstop hbefore hafter =>
    obtain ⟨tokens, hscan⟩ := exists_of_scans hscans
    refine alike_ofLine hscan ?_
    have hline : (left ++ String.singleton d ++ right).toList =
        left.toList ++ d :: right.toList := by simp
    have hother : (left ++ before ++ String.singleton d ++ after ++ right).toList =
        left.toList ++ (before.toList ++ d :: (after.toList ++ right.toList)) := by simp
    rw [hline] at hcut hstop
    obtain ⟨c, hfound, hdelimiter, -, -⟩ := Line.exists_of_isCut hcut
    obtain rfl : d = c := by simpa using hfound
    obtain ⟨hescape, hends⟩ := plain_of_isDelimiter hdelimiter
    rw [Line.tokenize, hline] at hscan
    rw [Line.tokenize, hother]
    exact (Line.mayReplace_gaps isDelimiter_of_separatesWords hdelimiter hescape hends hbefore
      hafter right.toList).behind (Line.taken_of_isCut hcut hstop) 0 0 [] tokens hscan
  | @comment body ending hscans hending text =>
    obtain ⟨tokens, hscan⟩ := exists_of_scans hscans
    rw [Line.tokenize_append_ending hending] at hscan
    apply alike_ofLine_of_tokenize_eq
    rw [Line.tokenize_append_ending hending, Line.tokenize_append_ending hending, hscan,
      Line.tokenize_append_comment hscan]

/-- A line whose layout is changed time and again keeps saying what it said. -/
theorem alike_of_relaid {old new : String} (h : Relation.ReflTransGen Relaid old new) :
    Entry.Alike (Entry.ofLine old) (Entry.ofLine new) := by
  induction h with
  | refl => exact .inl rfl
  | tail _ hlast ih => exact ih.trans hlast.alike

/-- Blanks have no meaning in a units file unless they end the line. -/
theorem plain_of_isBlank {c : Char} (h : isBlank c = true) :
    c ≠ Line.escape ∧ isDelimiter c = false := by
  constructor
  · rintro rfl
    exact absurd h (by decide)
  · cases hdelimiter : isDelimiter c with
    | false => rfl
    | true =>
      simp only [isDelimiter, Bool.or_eq_true, decide_eq_true_eq] at hdelimiter
      rcases hdelimiter with ((rfl | rfl) | rfl) | rfl <;> exact absurd h (by decide)

/-- A line with nothing but blanks and a comment is scanned into one blank run. -/
theorem scan_of_blanks {blanks rest : List Char} (h : ∀ c ∈ blanks, isBlank c = true)
    (hrest : rest = [] ∨ rest.head? = some Line.comment) (column start : Nat)
    {reversed : List Char} (hreversed : reversed.all isBlank = true) :
    ∃ only, Line.scan isDelimiter false column start reversed (blanks ++ rest) = .ok [only] ∧
      only.isBlank = true := by
  have hover : ∀ column reversed, Line.scan isDelimiter false column start reversed rest =
      .ok [Line.run start reversed] := by
    intro column reversed
    cases rest with
    | nil => rw [Line.scan]
    | cons c rest =>
      obtain rfl : c = Line.comment := by simpa using hrest
      rw [Line.scan_end (by decide) rfl]
  induction blanks generalizing column reversed with
  | nil => exact ⟨_, hover column reversed, by rw [isBlank_run, hreversed]⟩
  | cons c blanks ih =>
    obtain ⟨hblank, hlater⟩ := List.forall_mem_cons.mp h
    obtain ⟨hescape, hdelimiter⟩ := plain_of_isBlank hblank
    rw [List.cons_append]
    cases hends : decide (c = Line.comment) || Line.isBreak c with
    | true =>
      rw [Line.scan_end hescape hends]
      exact ⟨_, rfl, by rw [isBlank_run, hreversed]⟩
    | false =>
      rw [Line.scan_plain hdelimiter hescape hends]
      apply ih hlater
      rw [List.all_cons, hblank, hreversed]
      rfl

/-- A line that holds nothing says nothing. -/
theorem ofLine_of_isVoid (h : IsVoid line) : Entry.ofLine line = .blank := by
  obtain ⟨blanks, rest, hline, hblanks, hrest⟩ := h
  obtain ⟨only, hscan, honly⟩ := scan_of_blanks hblanks hrest 0 0 List.all_nil
  unfold Entry.ofLine
  rw [Line.tokenize, hline, hscan]
  simp [Entry.ofTokens, honly]

/-- A line that is not recognized is shown as it is. -/
theorem eq_of_ofLine_eq_unrecognized {text : String}
    (h : Entry.ofLine line = .faulty (.unrecognized text)) : text = line := by
  have hheader : ∀ tokens, Entry.ofHeader tokens ≠ .faulty (.unrecognized text) := by
    intro tokens h
    have hcloses := Entry.closes_ofHeader tokens
    rw [h] at hcloses
    contradiction
  have hassignment : ∀ keyText rest,
      Entry.ofAssignment keyText rest ≠ .faulty (.unrecognized text) := by
    intro keyText rest h
    unfold Entry.ofAssignment at h
    dsimp only at h
    split at h
    · cases h
    · split at h <;> cases h
  unfold Entry.ofLine at h
  split at h
  · cases h
  · unfold Entry.ofTokens at h
    split at h
    · split at h
      · exact absurd h (hheader _)
      · split at h
        · exact absurd h (hassignment _ _)
        · cases h
          rfl
    · split at h
      · cases h
      · cases h
        rfl
    · cases h
      rfl

end UnitConversion.UnitsFile

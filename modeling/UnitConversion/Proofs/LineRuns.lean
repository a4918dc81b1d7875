import Mathlib.Data.List.Forall2
import UnitConversion.Proofs.Escapes
import UnitConversion.Proofs.ScanSteps

/-!
# Runs of text on a line

A text in which no delimiter, no comment and no line break has its meaning is taken as a whole into
the run that it stands in. Lines that are put together from such texts fall apart into them again,
and the words of a line are such texts. No token holds a line break.
-/

namespace UnitConversion.Line

/-- No line ends in the text. -/
def OneLine (text : String) : Prop := ∀ c ∈ text.toList, isBreak c = false

-- All characters of the text are looked at, not all characters that there are.
instance (text : String) : Decidable (OneLine text) :=
  decidable_of_iff (text.toList.all fun c => !isBreak c) (by simp [OneLine])

/-- The character has a meaning of its own on a line. -/
def isMeaningful (isDelimiter : Char → Bool) (c : Char) : Bool :=
  c = escape || c = comment || isBreak c || isDelimiter c

/-- The text is taken as a whole into the run that it stands in, and this is what it adds to it. -/
inductive Taken (isDelimiter : Char → Bool) (keepEscapes : Bool) : List Char → List Char → Prop
  /-- No text adds nothing. -/
  | nil : Taken isDelimiter keepEscapes [] []
  /-- A character without a meaning of its own. -/
  | plain {c : Char} {rest taken : List Char} (h : isMeaningful isDelimiter c = false)
      (later : Taken isDelimiter keepEscapes rest taken) :
      Taken isDelimiter keepEscapes (c :: rest) (c :: taken)
  /-- A character whose meaning is taken away. -/
  | escaped {c : Char} {rest taken : List Char} (h : isBreak c = false)
      (later : Taken isDelimiter keepEscapes rest taken) :
      Taken isDelimiter keepEscapes (escape :: c :: rest)
        (if keepEscapes then escape :: c :: taken else c :: taken)

variable {isDelimiter : Char → Bool} {keepEscapes : Bool}

/-- What two texts add, one behind the other, is what each of them adds. -/
theorem Taken.append {left takenLeft right takenRight : List Char}
    (hleft : Taken isDelimiter keepEscapes left takenLeft)
    (hright : Taken isDelimiter keepEscapes right takenRight) :
    Taken isDelimiter keepEscapes (left ++ right) (takenLeft ++ takenRight) := by
  induction hleft with
  | nil => exact hright
  | plain h _ ih => exact .plain h ih
  | escaped h _ ih =>
    have hboth := Taken.escaped h ih
    cases keepEscapes <;> exact hboth

/-- Characters without a meaning of their own are taken as they are. -/
theorem Taken.of_plain {text : List Char} (h : text.any (isMeaningful isDelimiter) = false) :
    Taken isDelimiter keepEscapes text text := by
  induction text with
  | nil => exact .nil
  | cons c rest ih =>
    rw [List.any_cons, Bool.or_eq_false_iff] at h
    exact .plain h.1 (ih h.2)

/-- Behind a text that is taken the scan goes on inside the longer run. -/
theorem Taken.scan_append {text taken : List Char} (h : Taken isDelimiter keepEscapes text taken)
    (column start : Nat) (reversed rest : List Char) :
    scan isDelimiter keepEscapes column start reversed (text ++ rest) =
      scan isDelimiter keepEscapes (column + text.length) start (taken.reverse ++ reversed) rest := by
  induction h generalizing column reversed with
  | nil => rfl
  | @plain c text taken hplain later ih =>
    simp only [isMeaningful, Bool.or_eq_false_iff, decide_eq_false_iff_not] at hplain
    obtain ⟨⟨⟨hescape, hcomment⟩, hbreak⟩, hdelimiter⟩ := hplain
    have hcolumn : column + 1 + text.length = column + (c :: text).length := by
      rw [List.length_cons]
      omega
    rw [List.cons_append, scan_plain hdelimiter hescape (by simp [hcomment, hbreak]), ih, hcolumn,
      List.reverse_cons, List.append_assoc, List.singleton_append]
  | @escaped c text taken hbreak later ih =>
    have hcolumn : column + 2 + text.length = column + (escape :: c :: text).length := by
      simp only [List.length_cons]
      omega
    rw [List.cons_append, List.cons_append, scan_escaped hbreak, ih, hcolumn]
    cases keepEscapes <;> simp

/-- A text that is taken as a whole stands on one line, does not end in an escape, and has no
delimiter and no comment with its meaning. -/
theorem Taken.whole (h : Taken isDelimiter true chars taken) (hescape : isDelimiter escape = false) :
    (∀ c ∈ chars, isBreak c = false) ∧ endsInEscape chars = false ∧
      ∀ position c, chars[position]? = some c → isEscaped chars position = false →
        isDelimiter c = false ∧ c ≠ comment := by
  induction h with
  | nil => exact ⟨by simp, rfl, by simp⟩
  | @plain first rest taken hplain later ih =>
    obtain ⟨hbreaks, hcloses, hlater⟩ := ih
    simp only [isMeaningful, Bool.or_eq_false_iff, decide_eq_false_iff_not] at hplain
    obtain ⟨⟨⟨hfirst, hcomment⟩, hbreak⟩, hdelimiter⟩ := hplain
    have hclosed := endsInEscape_singleton hfirst
    refine ⟨List.forall_mem_cons.mpr ⟨hbreak, hbreaks⟩, ?_, ?_⟩
    · rw [← List.singleton_append, endsInEscape_append hclosed, hcloses]
    · intro position c hfound hmeaning
      cases position with
      | zero =>
        cases hfound
        exact ⟨hdelimiter, hcomment⟩
      | succ position =>
        have hshift := isEscaped_append hclosed rest position
        rw [List.singleton_append, List.length_singleton, Nat.add_comm, hmeaning] at hshift
        exact hlater position c hfound hshift.symm
  | @escaped second rest taken hbreak later ih =>
    obtain ⟨hbreaks, hcloses, hlater⟩ := ih
    have hclosed := endsInEscape_pair second
    refine ⟨?_, ?_, ?_⟩
    · exact List.forall_mem_cons.mpr ⟨rfl, List.forall_mem_cons.mpr ⟨hbreak, hbreaks⟩⟩
    · have happend := endsInEscape_append hclosed rest
      rwa [hcloses] at happend
    · intro position c hfound hmeaning
      match position, hfound, hmeaning with
      | 0, hfound, _ =>
        cases hfound
        exact ⟨hescape, by decide⟩
      | 1, _, hmeaning =>
        rw [isEscaped_succ (c := escape) rfl] at hmeaning
        contradiction
      | position + 2, hfound, hmeaning =>
        have hshift := isEscaped_append hclosed rest position
        rw [show [escape, second].length + position = position + 2 from Nat.add_comm _ _] at hshift
        exact hlater position c hfound (hshift.symm.trans hmeaning)

/-- A text on one line that does not end in an escape, and in which no delimiter and no comment has
its meaning, is taken as a whole. -/
theorem taken_of_whole (hbreaks : ∀ c ∈ chars, isBreak c = false)
    (hcloses : endsInEscape chars = false)
    (hplain : ∀ position c, chars[position]? = some c → isEscaped chars position = false →
      isDelimiter c = false ∧ c ≠ comment) : Taken isDelimiter true chars chars := by
  -- A backslash is taken with the character behind it, so the induction is on the length.
  induction hlength : chars.length using Nat.strongRecOn generalizing chars with
  | ind length ih =>
    cases chars with
    | nil => exact .nil
    | cons first rest =>
      rw [List.length_cons] at hlength
      obtain ⟨hbreak, hlater⟩ := List.forall_mem_cons.mp hbreaks
      by_cases hescape : first = escape
      · subst hescape
        cases rest with
        | nil => exact absurd hcloses (by decide)
        | cons second rest =>
          rw [List.length_cons] at hlength
          obtain ⟨hsecond, hlast⟩ := List.forall_mem_cons.mp hlater
          have hclosed := endsInEscape_pair second
          refine .escaped hsecond (ih rest.length (by omega) hlast ?_ ?_ rfl)
          · exact (endsInEscape_append hclosed rest).symm.trans hcloses
          · intro position c hfound hmeaning
            apply hplain (position + 2) c hfound
            have hshift := isEscaped_append hclosed rest position
            rw [hmeaning, Nat.add_comm] at hshift
            exact hshift
      · have hclosed := endsInEscape_singleton hescape
        obtain ⟨hdelimiter, hcomment⟩ := hplain 0 first rfl (isEscaped_zero _)
        refine .plain (by simp [isMeaningful, hescape, hcomment, hbreak, hdelimiter])
          (ih rest.length (by omega) hlater ?_ ?_ rfl)
        · exact (endsInEscape_append hclosed rest).symm.trans hcloses
        · intro position c hfound hmeaning
          apply hplain (position + 1) c hfound
          have hshift := isEscaped_append hclosed rest position
          rw [hmeaning, Nat.add_comm] at hshift
          exact hshift

/-- The texts between the delimiters. -/
def runs (tokens : List Token) : List String :=
  (tokens.filter fun token => !token.isDelimiter).map Token.text

/-- Texts with a delimiter between them are scanned into the runs that they add, with that delimiter
between the runs. -/
theorem scan_intercalate {c : Char} (hdelimiter : isDelimiter c = true) (hescape : c ≠ escape)
    (hend : (decide (c = comment) || isBreak c) = false) {first takenFirst : List Char}
    {texts takens : List (List Char)} (hfirst : Taken isDelimiter keepEscapes first takenFirst)
    (htexts : List.Forall₂ (Taken isDelimiter keepEscapes) texts takens)
    (column start : Nat) (reversed : List Char) :
    ∃ tokens, scan isDelimiter keepEscapes column start reversed
        ([c].intercalate (first :: texts)) = .ok tokens ∧
      runs tokens = ((reversed.reverse ++ takenFirst) :: takens).map String.ofList ∧
      ∀ token ∈ tokens, token.isDelimiter = true → token.text = String.singleton c := by
  induction htexts generalizing first takenFirst column start reversed with
  | nil =>
    refine ⟨[run start (takenFirst.reverse ++ reversed)], ?_, ?_, ?_⟩
    · rw [List.intercalate_singleton, ← List.append_nil first, hfirst.scan_append, scan]
    · simp [runs, run]
    · simp [run]
  | @cons second takenSecond texts takens hsecond hlater ih =>
    obtain ⟨tokens, hscan, hruns, honly⟩ := ih hsecond (column + first.length + 1)
      (column + first.length + 1) []
    refine ⟨run start (takenFirst.reverse ++ reversed) ::
      ⟨String.singleton c, true, column + first.length⟩ :: tokens, ?_, ?_, ?_⟩
    · rw [List.intercalate_cons_cons, List.append_assoc, List.singleton_append, hfirst.scan_append,
        scan_delimiter hdelimiter hescape hend, hscan]
      rfl
    · rw [List.reverse_nil, List.nil_append] at hruns
      rw [List.map_cons, ← hruns]
      simp [runs, run]
    · intro token hin hkind
      rcases List.mem_cons.mp hin with rfl | hin
      · contradiction
      · rcases List.mem_cons.mp hin with rfl | hin
        · rfl
        · exact honly token hin hkind

/-- No line ends in a token of a line. -/
theorem oneLine_of_scan {column start : Nat} {reversed chars : List Char} {tokens : List Token}
    (h : scan isDelimiter keepEscapes column start reversed chars = .ok tokens)
    (hreversed : ∀ c ∈ reversed, isBreak c = false) :
    ∀ token ∈ tokens, OneLine token.text := by
  have hrun : ∀ start reversed, (∀ c ∈ reversed, isBreak c = false) →
      OneLine (run start reversed).text := by
    intro start reversed hreversed c hc
    apply hreversed c
    simpa [run] using hc
  replace h := scanned_of_scan h
  induction h with
  | nil => simpa using hrun _ _ hreversed
  | stop => simpa using hrun _ _ hreversed
  | @escaped _ _ _ _ _ c hbreak _ ih =>
    refine ih ?_
    cases keepEscapes with
    | false => simpa [hbreak] using hreversed
    | true => simpa [hbreak, show isBreak escape = false from rfl] using hreversed
  | @cut _ _ _ _ _ c _ _ hgoes _ ih =>
    simp only [Bool.or_eq_false_iff] at hgoes
    intro token hin
    rcases List.mem_cons.mp hin with rfl | hin
    · exact hrun _ _ hreversed
    · rcases List.mem_cons.mp hin with rfl | hin
      · simpa [OneLine] using hgoes.2
      · exact ih (by simp) token hin
  | @plain _ _ _ _ _ c _ _ hgoes _ ih =>
    simp only [Bool.or_eq_false_iff] at hgoes
    refine ih ?_
    simpa [hgoes.2] using hreversed

/-- Where backslashes are kept, each run of a line is taken as a whole. -/
theorem taken_of_mem_runs {column start : Nat} {reversed chars : List Char} {tokens : List Token}
    (h : scan isDelimiter true column start reversed chars = .ok tokens)
    (hreversed : Taken isDelimiter true reversed.reverse reversed.reverse) :
    ∀ text ∈ runs tokens, Taken isDelimiter true text.toList text.toList := by
  have hrun : ∀ start reversed, Taken isDelimiter true reversed.reverse reversed.reverse →
      ∀ text ∈ runs [run start reversed], Taken isDelimiter true text.toList text.toList := by
    intro start reversed hreversed
    simpa [runs, run] using hreversed
  replace h := scanned_of_scan h
  induction h with
  | nil => exact hrun _ _ hreversed
  | stop => exact hrun _ _ hreversed
  | @escaped _ _ _ _ _ c hbreak _ ih =>
    refine ih ?_
    have hpair : Taken isDelimiter true [escape, c] [escape, c] := .escaped hbreak .nil
    simpa using hreversed.append hpair
  | @cut _ start reversed _ later _ _ _ _ _ ih =>
    intro text hin
    rcases List.mem_cons.mp (show text ∈ (run start reversed).text :: runs later from hin) with
      rfl | hin
    · exact hrun start reversed hreversed _ (List.mem_singleton_self _)
    · exact ih .nil text hin
  | @plain _ _ _ _ _ c hdelimiter hescape hgoes _ ih =>
    refine ih ?_
    have hplain : isMeaningful isDelimiter c = false := by
      simpa [isMeaningful, hescape, hdelimiter] using hgoes
    have hsingle : Taken isDelimiter true [c] [c] := .plain hplain .nil
    simpa using hreversed.append hsingle

/-- The words of a line are the runs that are not empty. -/
theorem words_eq (line : String) : words line =
    (tokenize separatesWords true line).map fun tokens =>
      (runs tokens).filter fun text => !text.isEmpty := by
  unfold words runs
  congr
  funext tokens
  rw [List.filter_map, List.filter_filter]
  congr 2
  funext token
  rw [Function.comp_apply, Bool.and_comm]

/-- The text is a word of some line. -/
def IsWord (text : String) : Prop := ∃ line texts, words line = .ok texts ∧ text ∈ texts

/-- A word is not empty, and it is taken as a whole. -/
theorem IsWord.taken {text : String} (h : IsWord text) :
    text ≠ "" ∧ Taken separatesWords true text.toList text.toList := by
  obtain ⟨line, texts, hwords, hin⟩ := h
  rw [words_eq] at hwords
  obtain ⟨tokens, hscan, rfl⟩ := Outcome.map_eq_ok.mp hwords
  obtain ⟨hrun, hnonempty⟩ := List.mem_filter.mp hin
  exact ⟨by simpa using hnonempty, taken_of_mem_runs hscan .nil text hrun⟩

/-- Texts that are taken as a whole are the words of the line on which they stand with blanks
between them. -/
theorem words_intercalate {texts : List String}
    (h : ∀ text ∈ texts, text ≠ "" ∧ Taken separatesWords true text.toList text.toList) :
    words (" ".intercalate texts) = .ok texts := by
  rw [words_eq, tokenize, String.toList_intercalate]
  cases texts with
  | nil => rfl
  | cons first texts =>
    have hlater : List.Forall₂ (Taken separatesWords true) (texts.map String.toList)
        (texts.map String.toList) := by
      rw [List.forall₂_map_left_iff, List.forall₂_map_right_iff, List.forall₂_same]
      exact fun text hin => (h text (List.mem_cons_of_mem _ hin)).2
    obtain ⟨tokens, hscan, hruns, -⟩ := scan_intercalate (c := ' ') rfl (by decide) rfl
      (h first List.mem_cons_self).2 hlater 0 0 []
    have htexts : runs tokens = first :: texts := by
      simpa using hruns
    have hkept : (first :: texts).filter (fun text => !text.isEmpty) = first :: texts := by
      rw [List.filter_eq_self]
      exact fun text hin => by simpa using (h text hin).1
    rw [List.map_cons, show " ".toList = [' '] from rfl, hscan]
    change Except.ok ((runs tokens).filter fun text => !text.isEmpty) = _
    rw [htexts, hkept]

end UnitConversion.Line

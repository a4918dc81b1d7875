import Mathlib.Data.List.Basic
import UnitConversion.Text.Lines

/-!
# The lines of a text

Reading a text line by line until nothing is left gives its lines, and there is only one way to cut
it into them. The lines of two texts follow each other when the first one ends in a line feed.
-/

namespace UnitConversion.Text

/-- The lines are those of the text, read one by one up to its end: each one holds something, and a
line feed ends every line but perhaps the last one. -/
structure AreLinesOf (lines : List String) (text : String) : Prop where
  /-- Together they are the text. -/
  whole : String.join lines = text
  /-- No line is empty, so none can be taken for the end of the text. -/
  nonempty : ∀ line ∈ lines, line ≠ ""
  /-- No line goes on behind a line feed. -/
  single : ∀ line ∈ lines, '\n' ∉ line.toList.dropLast
  /-- The lines before the last one have a line feed. -/
  ended : ∀ line ∈ lines.dropLast, line.toList.getLast? = some '\n'

/-- Only a text without characters has no lines. -/
theorem splitLines_eq_nil_iff {chars : List Char} : splitLines chars = [] ↔ chars = [] := by
  constructor
  · intro h
    rw [← flatten_splitLines chars, h, List.flatten_nil]
  · rintro rfl
    rfl

/-- The lines of two texts follow each other when no line of the first one goes on in the second. -/
theorem splitLines_append {first : List Char} (h : first = [] ∨ first.getLast? = some '\n')
    (second : List Char) : splitLines (first ++ second) = splitLines first ++ splitLines second := by
  induction first with
  | nil => rfl
  | cons c rest ih =>
    have hlast : (c :: rest).getLast? = some '\n' := h.resolve_left (List.cons_ne_nil c rest)
    by_cases hbreak : c = '\n'
    · subst hbreak
      have hrest : rest = [] ∨ rest.getLast? = some '\n' := by
        cases rest with
        | nil => exact .inl rfl
        | cons next further => exact .inr (by rw [← hlast, List.getLast?_cons_cons])
      simp only [List.cons_append, splitLines, ih hrest]
    · have hrest : rest ≠ [] := by
        rintro rfl
        exact hbreak (by simpa using hlast)
      have hended : rest.getLast? = some '\n' := by
        rw [← hlast, List.getLast?_cons, List.getLast?_eq_some_getLast hrest]
        rfl
      obtain ⟨line, lines, hlines⟩ := List.exists_cons_of_ne_nil
        (fun hnone => hrest (splitLines_eq_nil_iff.mp hnone))
      have hboth := ih (.inr hended)
      rw [hlines, List.cons_append] at hboth
      simp only [List.cons_append, splitLines, hboth, hlines]

/-- A text that does not go on behind a line feed is one line. -/
theorem splitLines_of_single {line : List Char} (hnonempty : line ≠ [])
    (h : '\n' ∉ line.dropLast) : splitLines line = [line] := by
  induction line with
  | nil => contradiction
  | cons c rest ih =>
    cases rest with
    | nil =>
      by_cases hbreak : c = '\n'
      · subst hbreak
        rfl
      · simp only [splitLines]
    | cons next further =>
      have hrest : splitLines (next :: further) = [next :: further] := by
        refine ih (List.cons_ne_nil _ _) fun hin => h ?_
        rw [List.dropLast_cons_cons]
        exact List.mem_cons_of_mem _ hin
      have hbreak : c ≠ '\n' := by
        rintro rfl
        exact h (by rw [List.dropLast_cons_cons]; exact List.mem_cons_self)
      simp only [splitLines, hrest]

/-- What the lines of a text are like. -/
theorem shape_of_mem_splitLines {chars line : List Char} (h : line ∈ splitLines chars) :
    line ≠ [] ∧ '\n' ∉ line.dropLast := by
  fun_induction splitLines chars generalizing line with
  | case1 => simp at h
  | case2 rest ih =>
    rcases List.mem_cons.mp h with rfl | hin
    · simp
    · exact ih hin
  | case3 c rest hbreak hnone ih =>
    rw [List.mem_singleton.mp h]
    simp
  | case4 c rest hbreak first others hlines ih =>
    rcases List.mem_cons.mp h with rfl | hin
    · obtain ⟨hnonempty, hsingle⟩ := ih (by rw [hlines]; exact List.mem_cons_self)
      refine ⟨List.cons_ne_nil _ _, ?_⟩
      rw [List.dropLast_cons_of_ne_nil hnonempty, List.mem_cons, not_or]
      exact ⟨fun hsame => hbreak hsame.symm, hsingle⟩
    · exact ih (by rw [hlines]; exact List.mem_cons_of_mem _ hin)

/-- A line of a text that is not the last one ends in a line feed. -/
theorem ended_of_mem_splitLines {chars line : List Char} (h : line ∈ (splitLines chars).dropLast) :
    line.getLast? = some '\n' := by
  fun_induction splitLines chars generalizing line with
  | case1 => simp at h
  | case2 rest ih =>
    cases hlines : splitLines rest with
    | nil => simp [hlines] at h
    | cons next others =>
      rw [hlines, List.dropLast_cons_cons, ← hlines] at h
      rcases List.mem_cons.mp h with rfl | hin
      · rfl
      · exact ih hin
  | case3 c rest hbreak hnone ih => simp at h
  | case4 c rest hbreak first others hlines ih =>
    rw [hlines] at ih
    cases others with
    | nil => simp at h
    | cons next further =>
      rw [List.dropLast_cons_cons] at h ih
      rcases List.mem_cons.mp h with rfl | hin
      · have hfirst := ih List.mem_cons_self
        rw [List.getLast?_cons, hfirst]
        rfl
      · exact ih (List.mem_cons_of_mem _ hin)

/-- The characters of texts that stand behind each other. -/
theorem toList_join (texts : List String) :
    (String.join texts).toList = (texts.map String.toList).flatten := by
  induction texts with
  | nil => rfl
  | cons text texts ih => rw [String.join_cons, String.toList_append, ih, List.map_cons,
      List.flatten_cons]

/-- The lines of a text are what reading it line by line gives. -/
theorem areLinesOf_lines (text : String) : AreLinesOf (lines text) text where
  whole := by
    apply String.toList_injective
    rw [toList_join, lines, List.map_map]
    have hid : String.toList ∘ String.ofList = id := by
      funext chars
      exact String.toList_ofList
    rw [hid, List.map_id, flatten_splitLines]
  nonempty := by
    intro line hin
    obtain ⟨chars, hchars, rfl⟩ := List.mem_map.mp hin
    have hnonempty := (shape_of_mem_splitLines hchars).1
    simpa [String.ext_iff] using hnonempty
  single := by
    intro line hin
    obtain ⟨chars, hchars, rfl⟩ := List.mem_map.mp hin
    rw [String.toList_ofList]
    exact (shape_of_mem_splitLines hchars).2
  ended := by
    intro line hin
    rw [lines, ← List.map_dropLast] at hin
    obtain ⟨chars, hchars, rfl⟩ := List.mem_map.mp hin
    rw [String.toList_ofList]
    exact ended_of_mem_splitLines hchars

/-- There is one way only to read a text line by line. -/
theorem AreLinesOf.eq_lines {texts : List String} {text : String} (h : AreLinesOf texts text) :
    texts = lines text := by
  rw [← h.whole, lines, toList_join]
  have hended := h.ended
  have hsingle := h.single
  have hnonempty := h.nonempty
  clear h
  induction texts with
  | nil => rfl
  | cons first rest ih =>
    have hfirst : splitLines first.toList = [first.toList] := by
      refine splitLines_of_single ?_ (hsingle first List.mem_cons_self)
      simpa using hnonempty first List.mem_cons_self
    cases rest with
    | nil => simp [hfirst]
    | cons next further =>
      rw [List.dropLast_cons_cons] at hended
      have hrest := ih (fun line hin => hended line (List.mem_cons_of_mem _ hin))
        (fun line hin => hsingle line (List.mem_cons_of_mem _ hin))
        (fun line hin => hnonempty line (List.mem_cons_of_mem _ hin))
      rw [List.map_cons, List.flatten_cons,
        splitLines_append (.inr (hended first List.mem_cons_self)), hfirst,
        List.singleton_append, List.map_cons, String.ofList_toList, ← hrest]

/-- The lines of two texts follow each other when the first one ends in a line feed. -/
theorem lines_append {first : String} (h : first = "" ∨ first.toList.getLast? = some '\n')
    (second : String) : lines (first ++ second) = lines first ++ lines second := by
  have hchars : first.toList = [] ∨ first.toList.getLast? = some '\n' := by
    rcases h with rfl | hended
    · exact .inl rfl
    · exact .inr hended
  rw [lines, String.toList_append, splitLines_append hchars, List.map_append]
  rfl

end UnitConversion.Text

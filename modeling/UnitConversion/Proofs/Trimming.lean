import Mathlib.Data.List.DropRight
import Mathlib.Data.List.TakeWhile
import UnitConversion.Text.Blank

/-!
# Trimming

What trimming takes from a text: the blanks at both ends, and nothing else. A second trimming takes
nothing.
-/

namespace UnitConversion.Text

/-- What is left without the blanks at both ends was there before. -/
theorem mem_of_mem_trimChars {c : Char} {chars : List Char} (h : c ∈ trimChars chars) :
    c ∈ chars := by
  unfold trimChars stripChars at h
  have hfront := (List.dropWhile_suffix isBlank).subset (List.mem_reverse.mp h)
  exact (List.dropWhile_suffix isBlank).subset (List.mem_reverse.mp hfront)

/-- What is not left without the blanks at both ends is blank. -/
theorem isBlank_or_mem_trimChars {c : Char} {chars : List Char} (h : c ∈ chars) :
    isBlank c = true ∨ c ∈ trimChars chars := by
  have hdropped : ∀ {chars : List Char}, c ∈ chars → isBlank c = true ∨
      c ∈ chars.dropWhile isBlank := by
    intro chars hin
    rw [← List.takeWhile_append_dropWhile (p := isBlank) (l := chars), List.mem_append] at hin
    exact hin.imp_left List.mem_takeWhile_imp
  unfold trimChars stripChars
  rcases hdropped h with hblank | hkept
  · exact .inl hblank
  · rw [List.mem_reverse]
    exact hdropped (List.mem_reverse.mpr hkept)

/-- Nothing is left of characters that are all blank, and of no others. -/
theorem trimChars_eq_nil_iff (chars : List Char) :
    trimChars chars = [] ↔ chars.all isBlank = true := by
  rw [List.all_eq_true]
  constructor
  · intro h c hc
    exact (isBlank_or_mem_trimChars hc).resolve_right (by simp [h])
  · intro h
    unfold trimChars stripChars
    rw [List.dropWhile_eq_nil_iff.mpr h]
    rfl

/-- Behind a blank the characters are trimmed as they are without it. -/
theorem trimChars_cons_of_isBlank {c : Char} (h : isBlank c = true) (chars : List Char) :
    trimChars (c :: chars) = trimChars chars := by
  unfold trimChars stripChars
  rw [List.dropWhile_cons_of_pos h]

/-- Behind blanks the characters are trimmed as they are without them. -/
theorem trimChars_blanks_append {blanks : List Char} (h : ∀ c ∈ blanks, isBlank c = true)
    (chars : List Char) : trimChars (blanks ++ chars) = trimChars chars := by
  unfold trimChars stripChars
  rw [List.dropWhile_append_of_pos h]

/-- Blanks behind the characters are trimmed away. -/
theorem trimChars_append_blanks {blanks : List Char} (h : ∀ c ∈ blanks, isBlank c = true)
    (chars : List Char) : trimChars (chars ++ blanks) = trimChars chars := by
  unfold trimChars stripChars
  rw [List.dropWhile_append]
  split
  · rename_i hnothing
    rw [List.dropWhile_eq_nil_iff.mpr h, List.isEmpty_iff.mp hnothing]
  · rw [List.reverse_append, List.dropWhile_append_of_pos fun c hc => h c (by simpa using hc)]

/-- A blank before a text is trimmed away. -/
theorem trim_blank_append (text : String) : trim (" " ++ text) = trim text := by
  rw [trim, String.toList_append, show " ".toList = [' '] from rfl, List.singleton_append,
    trimChars_cons_of_isBlank rfl]
  rfl

/-- Characters without a blank among them have none at their ends. -/
theorem trimChars_of_no_blank {chars : List Char} (h : chars.any isBlank = false) :
    trimChars chars = chars := by
  have hkept : ∀ {chars : List Char}, chars.any isBlank = false →
      chars.dropWhile isBlank = chars := by
    intro chars hchars
    cases chars with
    | nil => rfl
    | cons c rest =>
      rw [List.any_cons, Bool.or_eq_false_iff] at hchars
      rw [List.dropWhile_cons, if_neg (by simp [hchars.1])]
  unfold trimChars stripChars
  rw [hkept h, hkept (by rwa [List.any_reverse]), List.reverse_reverse]

/-- A text without a blank is trimmed to itself. -/
theorem trim_of_no_blank {text : String} (h : text.toList.any isBlank = false) :
    trim text = text := by
  rw [trim, trimChars_of_no_blank h, String.ofList_toList]

/-- Characters that do not start with a blank do not start with one when blanks are dropped from
their end. -/
theorem dropWhile_rdropWhile {chars : List Char} (h : chars.dropWhile isBlank = chars) :
    (chars.rdropWhile isBlank).dropWhile isBlank = chars.rdropWhile isBlank := by
  cases hkept : chars.rdropWhile isBlank with
  | nil => rfl
  | cons c rest =>
    obtain ⟨dropped, hchars⟩ := List.rdropWhile_prefix isBlank chars
    rw [hkept] at hchars
    rw [← hchars, List.cons_append, List.dropWhile_cons] at h
    split at h
    · rename_i hblank
      have hlength := congrArg List.length h
      have hless := (List.dropWhile_suffix isBlank (l := rest ++ dropped)).length_le
      rw [List.length_cons] at hlength
      omega
    · rename_i hblank
      rw [List.dropWhile_cons, if_neg hblank]

/-- Trimmed characters have no blanks at their ends. -/
theorem trimChars_trimChars (chars : List Char) :
    trimChars (trimChars chars) = trimChars chars := by
  have heq : ∀ chars, trimChars chars = (chars.dropWhile isBlank).rdropWhile isBlank :=
    fun _ => rfl
  rw [heq chars, heq, dropWhile_rdropWhile (List.dropWhile_idempotent _ _)]
  exact List.rdropWhile_idempotent _ _

/-- A trimmed text has no blanks at its ends. -/
theorem trim_trim (text : String) : trim (trim text) = trim text := by
  simp only [trim, String.toList_ofList, trimChars_trimChars]

end UnitConversion.Text

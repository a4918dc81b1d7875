import Mathlib.Logic.Basic
import UnitConversion.Session

/-!
# The roles of the words on a line

The words of a line are values first, then the unit converted from, then the units converted to.
Where the values end is settled by the words alone: they go on while words look like values, and
stop where no more than two words are left.
-/

namespace UnitConversion.Request

open ValueExpression

/-- Roles that words may have: further values look like values, there is a unit to convert to, and
the input unit looks like none unless one word alone stands behind it. -/
structure Split.Fits (split : Split) : Prop where
  /-- There is a value. -/
  values : split.values ≠ []
  /-- The values after the first one look like values. -/
  looks : ∀ word ∈ split.values.tail, looksLikeValue word = true
  /-- There is a unit to convert to. -/
  outputs : split.outputs ≠ []
  /-- The values end at the input unit. -/
  input : looksLikeValue split.input = false ∨ split.outputs.length = 1

/-- At least two words stand behind the first value. -/
theorem exists_two_words (values : List String) (input output : String) (later : List String) :
    ∃ second third rest, values ++ input :: output :: later = second :: third :: rest := by
  cases values with
  | nil => exact ⟨input, output, later, rfl⟩
  | cons second values =>
    cases values with
    | nil => exact ⟨second, input, output :: later, rfl⟩
    | cons third values => exact ⟨second, third, values ++ input :: output :: later, rfl⟩

/-- Values are taken up to the first word that is none, or the last but one. -/
theorem takeValues_append {values : List String} {input : String} {outputs : List String}
    (looks : ∀ word ∈ values, looksLikeValue word = true) (some_output : outputs ≠ [])
    (ends : looksLikeValue input = false ∨ outputs.length = 1) :
    takeValues (values ++ input :: outputs) = (values, input :: outputs) := by
  obtain ⟨output, later, rfl⟩ := List.exists_cons_of_ne_nil some_output
  induction values with
  | nil =>
    cases later with
    | nil => rfl
    | cons next rest =>
      have hinput : looksLikeValue input = false := by
        rcases ends with h | h
        · exact h
        · simp at h
      simp [takeValues, hinput]
  | cons value values ih =>
    have hlater := ih fun word hin => looks word (List.mem_cons_of_mem _ hin)
    have hvalue := looks value List.mem_cons_self
    obtain ⟨second, third, rest, hwords⟩ := exists_two_words values input output later
    rw [List.cons_append, hwords]
    rw [hwords] at hlater
    simp [takeValues, hvalue, hlater]

/-- What is taken off, and what stays, of two words at least. -/
theorem takeValues_spec {words : List String} (two : 2 ≤ words.length) :
    ∃ values input outputs, takeValues words = (values, input :: outputs) ∧
      words = values ++ input :: outputs ∧ outputs ≠ [] ∧
      (∀ word ∈ values, looksLikeValue word = true) ∧
      (looksLikeValue input = false ∨ outputs.length = 1) := by
  induction words with
  | nil => simp at two
  | cons first rest ih =>
    match rest, two, ih with
    | [second], _, _ => exact ⟨[], first, [second], rfl, rfl, by simp, by simp, .inr rfl⟩
    | second :: third :: rest, _, ih =>
      by_cases hfirst : looksLikeValue first = true
      · obtain ⟨values, input, outputs, htake, hwords, houtputs, hlooks, hends⟩ := ih (by simp)
        refine ⟨first :: values, input, outputs, ?_, ?_, houtputs, ?_, hends⟩
        · simp [takeValues, hfirst, htake]
        · rw [hwords, List.cons_append]
        · intro word hin
          rcases List.mem_cons.mp hin with rfl | hlater
          · exact hfirst
          · exact hlooks word hlater
      · have hother : looksLikeValue first = false := by simpa using hfirst
        refine ⟨[], first, second :: third :: rest, ?_, rfl, by simp, by simp, .inl hother⟩
        simp [takeValues, hfirst]

/-- The roles that the words of a line have are the only ones that fit them. -/
theorem split_eq_ok_iff {words : List String} {roles : Split} :
    split words = .ok roles ↔
      words = roles.values ++ roles.input :: roles.outputs ∧ roles.Fits := by
  constructor
  · intro h
    unfold split at h
    split at h
    · rename_i value second third rest
      obtain ⟨values, input, outputs, htake, hwords, houtputs, hlooks, hends⟩ :=
        @takeValues_spec (second :: third :: rest) (by simp)
      simp only [htake, Except.ok.injEq] at h
      subst h
      exact ⟨by rw [hwords, List.cons_append], by simp, hlooks, houtputs, hends⟩
    · contradiction
  · rintro ⟨rfl, fits⟩
    obtain ⟨values, input, outputs⟩ := roles
    obtain ⟨first, more, rfl⟩ := List.exists_cons_of_ne_nil fits.values
    obtain ⟨output, later, rfl⟩ := List.exists_cons_of_ne_nil fits.outputs
    have htake := takeValues_append fits.looks fits.outputs fits.input
    obtain ⟨second, third, rest, hwords⟩ := exists_two_words more input output later
    dsimp only [List.tail_cons] at htake ⊢
    rw [List.cons_append]
    rw [hwords] at htake ⊢
    simp only [split, htake]

/-- However words that look like values are taken off a line, with two words at least left behind
them, the values of the line are these and perhaps further ones. -/
theorem values_prefix_of_split {words : List String} {roles other : Split}
    (h : split words = .ok roles) (hwords : words = other.values ++ other.input :: other.outputs)
    (looks : ∀ word ∈ other.values.tail, looksLikeValue word = true)
    (some_output : other.outputs ≠ []) : other.values <+: roles.values := by
  obtain ⟨hroles, fits⟩ := split_eq_ok_iff.mp h
  rcases List.append_eq_append_iff.mp (hwords.symm.trans hroles) with
    ⟨more, hmore, -⟩ | ⟨further, hfurther, hrest⟩
  · exact ⟨more, hmore.symm⟩
  · cases further with
    | nil => exact ⟨[], by rw [hfurther, List.append_nil, List.append_nil]⟩
    | cons input later =>
      -- The input unit of the line is one of the other values, with two words behind it.
      rw [List.cons_append, List.cons.injEq] at hrest
      obtain ⟨hinput, houtputs⟩ := hrest
      obtain ⟨first, values, hvalues⟩ := List.exists_cons_of_ne_nil fits.values
      have hlooks : looksLikeValue roles.input = true := by
        apply looks
        rw [hfurther, hvalues, hinput]
        simp
      have hlength : 2 ≤ roles.outputs.length := by
        have hpositive := List.length_pos_iff.mpr some_output
        rw [houtputs, List.length_append, List.length_cons]
        omega
      rcases fits.input with hnone | hone
      · rw [hlooks] at hnone
        contradiction
      · omega

/-- A line has roles for its words when there are three at least. These leave no word out and take
none twice, the values behind the first one look like values, and with two or more words for units
to convert to the input unit looks like none. No other roles are like this, and no more values could
be taken off the line. -/
theorem words_split_in_one_way (words : List String) :
    (3 ≤ words.length → ∃ roles, split words = .ok roles) ∧
    (words.length < 3 → split words = .error (tooFewWords words)) ∧
    (∀ roles, split words = .ok roles ↔
      roles.values ++ [roles.input] ++ roles.outputs = words ∧
        roles.values ≠ [] ∧ roles.outputs ≠ [] ∧
        (∀ word ∈ roles.values.tail, looksLikeValue word = true) ∧
        (2 ≤ roles.outputs.length → looksLikeValue roles.input = false)) ∧
    ∀ roles other : Split, split words = .ok roles →
      other.values ++ [other.input] ++ other.outputs = words →
      (∀ word ∈ other.values.tail, looksLikeValue word = true) → other.outputs ≠ [] →
        other.values <+: roles.values := by
  refine ⟨?_, ?_, ?_, ?_⟩
  · intro hthree
    match words, hthree with
    | value :: second :: third :: rest, _ =>
      obtain ⟨values, input, outputs, htake, -⟩ :=
        @takeValues_spec (second :: third :: rest) (by simp)
      exact ⟨⟨value :: values, input, outputs⟩, by simp only [split, htake]⟩
  · intro hfew
    match words, hfew with
    | [], _ | [_], _ | [_, _], _ => rfl
  · intro roles
    rw [split_eq_ok_iff, List.append_assoc, List.singleton_append, eq_comm (a := words)]
    refine and_congr_right fun _ => ⟨?_, ?_⟩
    · intro fits
      refine ⟨fits.values, fits.outputs, fits.looks, fun hmore => ?_⟩
      exact fits.input.resolve_right (by omega)
    · rintro ⟨some_value, some_output, looks, hinput⟩
      refine ⟨some_value, looks, some_output, ?_⟩
      by_cases hmore : 2 ≤ roles.outputs.length
      · exact .inl (hinput hmore)
      · have hpositive := List.length_pos_iff.mpr some_output
        exact .inr (by omega)
  · intro roles other hsplit hwords looks some_output
    rw [List.append_assoc, List.singleton_append] at hwords
    exact values_prefix_of_split hsplit hwords.symm looks some_output

-- The last word but one is the input unit, though it looks like a value.
example : split ["24", ":", "_m:"] = .ok ⟨["24"], ":", ["_m:"]⟩ := rfl

end UnitConversion.Request

import Mathlib.Logic.Basic
import UnitConversion.Expression.Unit
import UnitConversion.Proofs.Outcomes

/-!
# Words for units

How a word is written that recalls a unit, and how one is written that names it. A name is written
with a backslash before each of its characters, so none of them has a meaning of its own.
-/

namespace UnitConversion.UnitExpression

/-- A word with an optional metric prefix before other characters. -/
def prefixedWord (metric : Option MetricPrefix) (body : List Char) : String :=
  match metric with
  | none => String.ofList body
  | some metric => String.ofList (prefixSign :: metric.letter :: body)

/-- The word that recalls a unit, with an optional metric prefix. -/
def recallWord (metric : Option MetricPrefix) : String := prefixedWord metric [recallSign]

/-- The name with a backslash before each character. -/
def escaped (name : String) : List Char := name.toList.flatMap fun c => [escape, c]

/-- The word that names a unit, with an optional metric prefix. -/
def literalWord (metric : Option MetricPrefix) (name : String) : String :=
  prefixedWord metric (escaped name)

/-- The expression that recalls a unit. -/
def recallOf : Option MetricPrefix → UnitExpression
  | none => recalled
  | some metric => prefixedRecall metric

/-- The expression that names a unit. -/
def literalOf (metric : Option MetricPrefix) (name : String) : UnitExpression :=
  match metric with
  | none => literal name
  | some metric => prefixed metric name

/-- What names a unit recalls none. -/
theorem literalOf_ne_recallOf (named recalling : Option MetricPrefix) (name : String) :
    literalOf named name ≠ recallOf recalling := by
  cases named <;> cases recalling <;> simp [literalOf, recallOf]

/-- Without the backslashes the name is back. -/
theorem unescape?_flatMap (chars : List Char) :
    unescape? (chars.flatMap fun c => [escape, c]) = some chars := by
  induction chars with
  | nil => rfl
  | cons c rest ih => simp [unescape?, ih]

/-- A name that is written out is read as it is. -/
theorem readName_escaped (token : String) {name : String} (h : name ≠ "") :
    readName token (escaped name) = .ok name := by
  have hname : String.ofList name.toList = name := String.ofList_toList
  unfold readName escaped
  rw [unescape?_flatMap]
  cases hchars : name.toList with
  | nil => exact absurd (String.toList_eq_nil_iff.mp hchars) h
  | cons c rest =>
    rw [hchars] at hname
    exact congrArg Except.ok hname

/-- A name that is written out starts with a backslash. -/
theorem escaped_eq_cons {name : String} (h : name ≠ "") :
    ∃ rest, escaped name = escape :: rest := by
  unfold escaped
  cases hname : name.toList with
  | nil => exact absurd (String.toList_eq_nil_iff.mp hname) h
  | cons c rest => exact ⟨_, rfl⟩

/-- The word that recalls a unit is read as that. -/
theorem read_recallWord (metric : Option MetricPrefix) :
    read (recallWord metric) = .ok (recallOf metric) := by
  cases metric with
  | none => rfl
  | some metric => cases metric <;> rfl

/-- The word that names a unit is read as that. -/
theorem read_literalWord (metric : Option MetricPrefix) {name : String} (h : name ≠ "") :
    read (literalWord metric name) = .ok (literalOf metric name) := by
  obtain ⟨rest, hescaped⟩ := escaped_eq_cons h
  have hread := fun token => readName_escaped token h
  rw [hescaped] at hread
  have hsign : escape ≠ recallSign := by decide
  cases metric with
  | none =>
    have hprefix : escape ≠ prefixSign := by decide
    simp only [read, literalWord, prefixedWord, hescaped, String.toList_ofList, hsign, hprefix,
      if_false, hread]
    rfl
  | some metric =>
    have hprefix : prefixSign ≠ recallSign := by decide
    simp only [read, literalWord, prefixedWord, hescaped, String.toList_ofList, hprefix, if_false,
      if_true, MetricPrefix.ofLetter?_letter, readPrefixed, hsign, hread]
    rfl

/-- A word that names a unit recalls none. -/
theorem literalWord_ne_recallWord (named recalling : Option MetricPrefix) {name : String}
    (h : name ≠ "") : literalWord named name ≠ recallWord recalling := by
  intro hsame
  have hread := read_literalWord named h
  rw [hsame, read_recallWord, Except.ok.injEq] at hread
  exact literalOf_ne_recallOf named recalling name hread.symm

/-- A name that is read is not empty. -/
theorem ne_empty_of_readName {token name : String} {chars : List Char}
    (h : readName token chars = .ok name) : name ≠ "" := by
  unfold readName at h
  split at h
  · contradiction
  · contradiction
  · rename_i hname _
    cases h
    intro hempty
    exact hname (String.ofList_eq_empty_iff.mp hempty)

/-- What is read behind a metric prefix: the sign of a recall, or a name. -/
theorem readPrefixed_eq_ok {token : String} {metric : MetricPrefix} {body : List Char}
    {expression : UnitExpression} (h : readPrefixed token metric body = .ok expression) :
    (body = [recallSign] ∧ expression = .prefixedRecall metric) ∨
      ∃ name, name ≠ "" ∧ expression = .prefixed metric name := by
  unfold readPrefixed at h
  split at h
  · contradiction
  · rename_i c rest
    split at h
    · rename_i hsign
      split at h
      · rename_i hempty
        cases h
        exact .inl ⟨by rw [hsign, List.isEmpty_iff.mp hempty], rfl⟩
      · contradiction
    · obtain ⟨name, hname, rfl⟩ := Outcome.map_eq_ok.mp h
      exact .inr ⟨name, ne_empty_of_readName hname, rfl⟩

/-- What is read is the word of a recall, or it names a unit. -/
theorem read_eq_ok {word : String} {expression : UnitExpression} (h : read word = .ok expression) :
    ∃ metric, (word = recallWord metric ∧ expression = recallOf metric) ∨
      ∃ name, name ≠ "" ∧ expression = literalOf metric name := by
  have hword : String.ofList word.toList = word := String.ofList_toList
  unfold read at h
  split at h
  · contradiction
  · rename_i c rest hchars
    rw [hchars] at hword
    split at h
    · rename_i hsign
      split at h
      · rename_i hempty
        cases h
        refine ⟨none, .inl ⟨?_, rfl⟩⟩
        rw [← hword, hsign, List.isEmpty_iff.mp hempty]
        rfl
      · contradiction
    · split at h
      · rename_i hprefix
        split at h
        · contradiction
        · rename_i letter body
          split at h
          · contradiction
          · rename_i metric hletter
            have hmetric := MetricPrefix.letter_of_ofLetter? hletter
            rcases readPrefixed_eq_ok h with ⟨rfl, rfl⟩ | ⟨name, hname, rfl⟩
            · refine ⟨some metric, .inl ⟨?_, rfl⟩⟩
              rw [← hword, hprefix, ← hmetric]
              rfl
            · exact ⟨some metric, .inr ⟨name, hname, rfl⟩⟩
      · obtain ⟨name, hname, rfl⟩ := Outcome.map_eq_ok.mp h
        exact ⟨none, .inr ⟨name, ne_empty_of_readName hname, rfl⟩⟩

/-- A literal without a metric prefix has a name. -/
theorem ne_empty_of_read {word name : String} (h : read word = .ok (.literal name)) :
    name ≠ "" := by
  obtain ⟨metric, ⟨-, hsame⟩ | ⟨other, hother, hsame⟩⟩ := read_eq_ok h
  · cases metric <;> contradiction
  · cases metric with
    | none =>
      cases hsame
      exact hother
    | some metric => contradiction

end UnitConversion.UnitExpression

import UnitConversion.Proofs.LineSplit
import UnitConversion.Proofs.LiteralShape

/-!
# Words that look like values

Where the values of a line end is settled by how words look, and what they stand for is read later.
The two differ in two ways: blanks around a number do not matter to the reading but to the look, and
a word for infinity or for no number looks like a value also where it is misspelled.
-/

namespace UnitConversion

open Text

namespace Numeric

/-- The words for infinity and for no number, in small letters. -/
def specialWords : List (List Char) := ["inf".toList, "infinity".toList, "nan".toList]

/-- The character is a dotted capital i or a dotless small one. -/
def IsForeignI (c : Char) : Prop := c.toNat = 0x130 ∨ c.toNat = 0x131

/-- The token is one of the words behind an optional sign, in letters of any case, and among them is
an i that has a dot it should not have or lacks the one it should have. -/
def IsMisspelled (token : String) : Prop :=
  (splitSign token.toList).2.map caselessLetter ∈ specialWords ∧
    ∃ c ∈ (splitSign token.toList).2, IsForeignI c

/-- A letter of the words that is no ASCII character is one of the two. -/
theorem isForeignI_iff_of_caselessLetter {c : Char} (h : (caselessLetter c).toNat < 128) :
    IsForeignI c ↔ 128 ≤ c.toNat := by
  unfold IsForeignI
  constructor
  · intro hforeign
    omega
  · intro hlarge
    by_contra hother
    have hsame := caselessLetter_of_not_capital hother (.inr (by omega))
    rw [hsame] at h
    omega

/-- The words are made of ASCII characters. -/
theorem toNat_lt_of_mem_specialWords {word : List Char} (h : word ∈ specialWords) {c : Char}
    (hc : c ∈ word) : c.toNat < 128 := by
  have hall : specialWords.all (fun word => word.all (·.toNat < 128)) = true := by decide
  have hword := List.all_eq_true.mp hall word h
  simpa using List.all_eq_true.mp hword c hc

namespace Literal

/-- A word is misspelled when it is one of the words with one of the two letters in it. -/
theorem ofWord?_eq_misspelled_iff {negative : Bool} {word : List Char} :
    ofWord? negative word = some .misspelled ↔
      word.map caselessLetter ∈ specialWords ∧ ∃ c ∈ word, IsForeignI c := by
  have hforeign : word.map caselessLetter ∈ specialWords →
      ((∃ c ∈ word, IsForeignI c) ↔ word.all (·.toNat < 128) = false) := by
    intro hword
    rw [List.all_eq_false]
    refine exists_congr fun c => and_congr_right fun hc => ?_
    rw [isForeignI_iff_of_caselessLetter
      (toNat_lt_of_mem_specialWords hword (List.mem_map_of_mem hc))]
    simp
  unfold ofWord?
  dsimp only
  by_cases hinfinity : word.map caselessLetter = "inf".toList ∨
      word.map caselessLetter = "infinity".toList
  · have hword : word.map caselessLetter ∈ specialWords := by
      rcases hinfinity with h | h <;> simp [specialWords, h]
    rw [if_pos hinfinity, and_iff_right hword, hforeign hword]
    cases word.all (·.toNat < 128) <;> simp
  · rw [if_neg hinfinity]
    by_cases hnan : word.map caselessLetter = "nan".toList
    · have hword : word.map caselessLetter ∈ specialWords := by simp [specialWords, hnan]
      rw [if_pos hnan, and_iff_right hword, hforeign hword]
      cases word.all (·.toNat < 128) <;> simp
    · have hword : word.map caselessLetter ∉ specialWords := by
        simp only [specialWords, List.mem_cons, List.not_mem_nil, or_false, not_or] at hinfinity ⊢
        exact ⟨hinfinity.1, hinfinity.2, hnan⟩
      rw [if_neg hnan]
      simp only [reduceCtorEq, hword, false_and]

/-- Digits are not misspelled. -/
theorem ofDecimal?_ne_misspelled (negative : Bool) (chars : List Char) :
    ofDecimal? negative chars ≠ some .misspelled := by
  unfold ofDecimal?
  dsimp only
  split
  · split
    · simp
    · simp
  · split
    · simp
    · simp

/-- A token is a misspelled literal when it is one of the words, misspelled. -/
theorem ofChars?_eq_misspelled_iff {token : String} :
    ofChars? token.toList = some .misspelled ↔ IsMisspelled token := by
  unfold ofChars? IsMisspelled
  obtain ⟨negative, body⟩ := splitSign token.toList
  dsimp only
  rw [← @ofWord?_eq_misspelled_iff negative body, Option.or_eq_some_iff]
  constructor
  · rintro (hword | ⟨-, hdecimal⟩)
    · exact hword
    · exact absurd hdecimal (ofDecimal?_ne_misspelled negative body)
  · exact .inl

/-- A misspelled literal is the only one that stands for no number. -/
theorem value?_eq_none_iff {literal : Literal} : literal.value? = none ↔ literal = .misspelled := by
  cases literal <;> simp [value?]

end Literal

/-- A token is read as a number when it is a literal, blanks around it removed, and not
misspelled. -/
theorem exists_readNumber_eq_ok_iff {token : String} :
    (∃ value, readNumber token = .ok value) ↔
      isLiteral (trim token) = true ∧ ¬IsMisspelled (trim token) := by
  rw [← Literal.ofChars?_eq_misspelled_iff, isLiteral]
  unfold readNumber
  dsimp only
  cases Literal.ofChars? (trim token).toList with
  | none => simp
  | some literal =>
    simp only [Option.isSome_some, true_and, Option.some.injEq]
    rw [← Literal.value?_eq_none_iff]
    cases literal.value? <;> simp

/-- A literal has no blanks around it. -/
theorem trim_of_isLiteral {token : String} (h : isLiteral token = true) : trim token = token := by
  obtain ⟨literal, hliteral⟩ := Option.isSome_iff_exists.mp h
  have hchars := List.all_eq_true.mp (all_isLiteralChar_of_ofChars? hliteral)
  apply trim_of_no_blank
  rw [List.any_eq_false]
  intro c hc
  simp [isBlank_of_isLiteralChar (hchars c hc)]

/-- A misspelled word is a literal. -/
theorem isLiteral_of_isMisspelled {token : String} (h : IsMisspelled token) :
    isLiteral token = true := by
  rw [isLiteral, Literal.ofChars?_eq_misspelled_iff.mpr h]
  rfl

end Numeric

namespace ValueExpression

open Numeric

/-- The token is read as a value, or the only objection to it is that the number is not finite. -/
def ReadsAsValue (token : String) : Prop :=
  (∃ expression, read token = .ok expression) ∨
    read token = .error (.invalidValue token (some "not finite"))

/-- A token that recalls a value or is a number reads as a value, and no other one does. -/
theorem readsAsValue_iff {token : String} :
    ReadsAsValue token ↔ token = recallText ∨ ∃ value, readNumber token = .ok value := by
  unfold ReadsAsValue read
  by_cases hrecall : token = recallText
  · simp [hrecall]
  · rw [if_neg hrecall]
    cases hnumber : readNumber token with
    | error fault => simp [hrecall]
    | ok value => cases hfinite : value.isFinite <;> simp [hfinite]

/-- A token looks like a value when it reads as one and has no blanks around it, and also when it is
misspelled. -/
theorem looksLikeValue_iff {token : String} : looksLikeValue token = true ↔
    (ReadsAsValue token ∧ trim token = token) ∨ IsMisspelled token := by
  have hrecall : trim recallText = recallText := by decide
  rw [looksLikeValue, Bool.or_eq_true, decide_eq_true_eq, readsAsValue_iff,
    exists_readNumber_eq_ok_iff]
  constructor
  · rintro (rfl | hliteral)
    · exact .inl ⟨.inl rfl, hrecall⟩
    · have htrim := trim_of_isLiteral hliteral
      by_cases hmisspelled : IsMisspelled token
      · exact .inr hmisspelled
      · exact .inl ⟨.inr (by rw [htrim]; exact ⟨hliteral, hmisspelled⟩), htrim⟩
  · rintro (⟨rfl | ⟨hliteral, -⟩, htrim⟩ | hmisspelled)
    · exact .inl rfl
    · rw [htrim] at hliteral
      exact .inr hliteral
    · exact .inr (isLiteral_of_isMisspelled hmisspelled)

/-- A misspelled word does not read as a value. -/
theorem not_readsAsValue_of_isMisspelled {token : String} (h : IsMisspelled token) :
    ¬ReadsAsValue token := by
  have hliteral := isLiteral_of_isMisspelled h
  rw [readsAsValue_iff, exists_readNumber_eq_ok_iff, trim_of_isLiteral hliteral]
  rintro (rfl | ⟨-, hspelled⟩)
  · contradiction
  · exact hspelled h

/-- A token that reads as a value but does not look like one has blanks around a number. -/
theorem readsAsValue_and_not_looksLikeValue_iff {token : String} :
    ReadsAsValue token ∧ looksLikeValue token = false ↔
      trim token ≠ token ∧ ∃ value, readNumber token = .ok value := by
  have hlooks := @looksLikeValue_iff token
  constructor
  · rintro ⟨hreads, hnone⟩
    rw [hnone] at hlooks
    have htrim : trim token ≠ token := fun htrim =>
      Bool.false_ne_true (hlooks.mpr (.inl ⟨hreads, htrim⟩))
    refine ⟨htrim, (readsAsValue_iff.mp hreads).resolve_left ?_⟩
    rintro rfl
    exact htrim (by decide)
  · rintro ⟨htrim, hnumber⟩
    refine ⟨readsAsValue_iff.mpr (.inr hnumber), ?_⟩
    rw [Bool.eq_false_iff, ne_eq, hlooks]
    rintro (⟨-, hsame⟩ | hmisspelled)
    · exact htrim hsame
    · exact htrim (trim_of_isLiteral (isLiteral_of_isMisspelled hmisspelled))

end ValueExpression

open ValueExpression Numeric

/-- How words look and how they read differ in two ways and in no others: a word with blanks around
a number reads as a value without looking like one, and a misspelled word looks like a value without
reading as one. So every later value of a line reads as a value or is misspelled, and what reads as
a value is taken for the input unit, with more than one word behind it, only for the blanks around
it. -/
theorem looks_and_reading_differ (token : String) (words : List String) :
    (looksLikeValue token = true ∧ ¬ReadsAsValue token ↔ IsMisspelled token) ∧
    (ReadsAsValue token ∧ looksLikeValue token = false ↔
      trim token ≠ token ∧ ∃ value, readNumber token = .ok value) ∧
    (¬IsMisspelled token → trim token = token →
      (looksLikeValue token = true ↔ ReadsAsValue token)) ∧
    ∀ roles, Request.split words = .ok roles →
      (∀ value ∈ roles.values.tail, ReadsAsValue value ∨ IsMisspelled value) ∧
      (1 < roles.outputs.length → ReadsAsValue roles.input → trim roles.input ≠ roles.input) := by
  refine ⟨?_, readsAsValue_and_not_looksLikeValue_iff, ?_, ?_⟩
  · rw [looksLikeValue_iff]
    constructor
    · rintro ⟨⟨hreads, -⟩ | hmisspelled, hnot⟩
      · exact absurd hreads hnot
      · exact hmisspelled
    · intro hmisspelled
      exact ⟨.inr hmisspelled, not_readsAsValue_of_isMisspelled hmisspelled⟩
  · intro hspelled htrim
    rw [looksLikeValue_iff]
    simp [hspelled, htrim]
  · intro roles hsplit
    obtain ⟨-, fits⟩ := Request.split_eq_ok_iff.mp hsplit
    constructor
    · intro value hin
      exact (looksLikeValue_iff.mp (fits.looks value hin)).imp_left And.left
    · intro hmore hreads
      have hinput := fits.input.resolve_right (by omega)
      exact (readsAsValue_and_not_looksLikeValue_iff.mp ⟨hreads, hinput⟩).1

/-- A number behind a blank reads as a value without looking like one, and on a line it is taken for
the input unit. A word for infinity with a dotless i looks like a value without reading as one, and
on a line it is taken for a value. -/
theorem padded_number_and_misspelled_word :
    (ReadsAsValue " 2" ∧ looksLikeValue " 2" = false ∧
      Request.split ["1", " 2", "in", "mm"] = .ok ⟨["1"], " 2", ["in", "mm"]⟩) ∧
    (looksLikeValue "ınf" = true ∧ ¬ReadsAsValue "ınf" ∧
      Request.split ["1", "ınf", "in", "mm"] = .ok ⟨["1", "ınf"], "in", ["mm"]⟩) := by
  have hforeign : IsMisspelled "ınf" := by
    refine ⟨by decide, 'ı', by decide, .inr (by decide)⟩
  have hnumber : ∃ value, readNumber " 2" = .ok value := by
    rw [exists_readNumber_eq_ok_iff, ← Literal.ofChars?_eq_misspelled_iff]
    decide
  refine ⟨⟨readsAsValue_iff.mpr (.inr hnumber), by decide, by decide⟩, by decide,
    not_readsAsValue_of_isMisspelled hforeign, by decide⟩

end UnitConversion

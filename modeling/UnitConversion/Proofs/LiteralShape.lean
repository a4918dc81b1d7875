import UnitConversion.Numeric.Literal
import UnitConversion.Proofs.Trimming

/-!
# The characters of number literals

A number literal is made of digits, signs, points and the letters of its words. None of these is a
blank, so a word that reads as a number is a literal with blanks around it at most, and the literal
alone reads as the same number.
-/

namespace UnitConversion

open Text

namespace Text

/-- A digit lies in one of the runs of ten. -/
theorem exists_zero_of_isDecimalDigit {c : Char} (h : isDecimalDigit c = true) :
    ∃ start ∈ digitZeros, start ≤ c.toNat ∧ c.toNat < start + 10 := by
  unfold isDecimalDigit digitValue? at h
  rw [Option.isSome_map, List.find?_isSome] at h
  obtain ⟨start, hstart, hdigit⟩ := h
  exact ⟨start, hstart, by simpa using hdigit⟩

/-- No digit of any script is blank. -/
theorem isBlank_of_isDecimalDigit {c : Char} (h : isDecimalDigit c = true) : isBlank c = false := by
  have hapart : ∀ start ∈ digitZeros, ∀ range ∈ blankRanges,
      start + 10 ≤ range.1 ∨ range.2 < start := by decide
  obtain ⟨start, hstart, hdigit⟩ := exists_zero_of_isDecimalDigit h
  unfold isBlank inRanges
  rw [List.any_eq_false]
  intro range hrange
  have := hapart start hstart range hrange
  simp only [Bool.and_eq_true, decide_eq_true_eq, not_and]
  omega

/-- What starts with a digit has no sign. -/
theorem splitSign_of_isDecimalDigit {first : Char} (h : isDecimalDigit first = true)
    (rest : List Char) : splitSign (first :: rest) = (false, first :: rest) := by
  have hsigns : isDecimalDigit '-' = false ∧ isDecimalDigit '+' = false := by decide
  unfold splitSign
  split
  · rename_i heq
    rw [(List.cons.inj heq).1, hsigns.1] at h
    contradiction
  · rename_i heq
    rw [(List.cons.inj heq).1, hsigns.2] at h
    contradiction
  · rfl

end Text

namespace Numeric

/-- The letters of the words for infinity and for no number, and the mark of an exponent. -/
def literalLetters : List Char := ['i', 'n', 'f', 't', 'y', 'a', 'e']

/-- The character may stand in a number literal. -/
def isLiteralChar (c : Char) : Bool :=
  isDecimalDigit c || ['-', '+', '.'].contains c || literalLetters.contains (caselessLetter c)

/-- A character other than the capital letters stays in small letters what it is. -/
theorem toLower_of_not_capital {c : Char} (hcapital : c.toNat < 65 ∨ 90 < c.toNat) :
    c.toLower = c := by
  have hletter : ¬(c.val ≥ 'A'.val ∧ c.val ≤ 'Z'.val) := by
    rintro ⟨hleast, hmost⟩
    have hleast : 65 ≤ c.toNat := hleast
    have hmost : c.toNat ≤ 90 := hmost
    omega
  unfold Char.toLower
  rw [dif_neg hletter]

/-- A character other than the capital letters, the dotless i and the dotted capital one is what it
is in any case. -/
theorem caselessLetter_of_not_capital {c : Char} (hforeign : ¬(c.toNat = 0x130 ∨ c.toNat = 0x131))
    (hcapital : c.toNat < 65 ∨ 90 < c.toNat) : caselessLetter c = c := by
  rw [caselessLetter, if_neg hforeign, toLower_of_not_capital hcapital]

/-- A blank stands for no letter. -/
theorem caselessLetter_of_isBlank {c : Char} (h : isBlank c = true) : caselessLetter c = c := by
  simp only [isBlank, inRanges, blankRanges, List.any_cons, List.any_nil, Bool.or_eq_true,
    Bool.and_eq_true, decide_eq_true_eq, Bool.or_false] at h
  exact caselessLetter_of_not_capital (by omega) (by omega)

/-- A digit stands for no letter. -/
theorem caselessLetter_of_isDecimalDigit {c : Char} (h : isDecimalDigit c = true) :
    caselessLetter c = c := by
  have hapart : ∀ start ∈ digitZeros,
      start + 10 ≤ 65 ∨ 90 < start ∧ (start + 10 ≤ 0x130 ∨ 0x131 < start) := by decide
  obtain ⟨start, hstart, hdigit⟩ := exists_zero_of_isDecimalDigit h
  have hstart := hapart start hstart
  exact caselessLetter_of_not_capital (by omega) (by omega)

/-- No character of a number literal is blank. -/
theorem isBlank_of_isLiteralChar {c : Char} (h : isLiteralChar c = true) : isBlank c = false := by
  have hsigns : ['-', '+', '.'].any isBlank = false := by decide
  have hletters : literalLetters.any isBlank = false := by decide
  simp only [isLiteralChar, Bool.or_eq_true, List.contains_iff_mem] at h
  rcases h with (hdigit | hsign) | hletter
  · exact isBlank_of_isDecimalDigit hdigit
  · simpa using List.any_eq_false.mp hsigns c hsign
  · by_contra hblank
    have hsame := caselessLetter_of_isBlank (by simpa using hblank)
    rw [hsame] at hletter
    exact List.any_eq_false.mp hletters c hletter (by simpa using hblank)

/-- Digits may stand in a number literal. -/
theorem all_isLiteralChar_of_digits {chars : List Char} (h : chars.all isDecimalDigit = true) :
    chars.all isLiteralChar = true := by
  rw [List.all_eq_true] at h ⊢
  intro c hc
  simp [isLiteralChar, h c hc]

/-- A run of digits may stand in a number literal. -/
theorem all_isLiteralChar_takeWhile (chars : List Char) :
    (chars.takeWhile isDecimalDigit).all isLiteralChar = true :=
  all_isLiteralChar_of_digits List.all_takeWhile

/-- The sign of a number may stand in a number literal. -/
theorem all_isLiteralChar_of_splitSign {chars : List Char}
    (h : (splitSign chars).2.all isLiteralChar = true) : chars.all isLiteralChar = true := by
  unfold splitSign at h
  split at h
  · exact List.all_cons.trans (Bool.and_eq_true_iff.mpr ⟨by decide, h⟩)
  · exact List.all_cons.trans (Bool.and_eq_true_iff.mpr ⟨by decide, h⟩)
  · exact h

/-- An integer is made of characters of number literals. -/
theorem all_isLiteralChar_of_isInteger {chars : List Char} (h : isInteger chars = true) :
    chars.all isLiteralChar = true := by
  simp only [isInteger, Bool.and_eq_true] at h
  exact all_isLiteralChar_of_splitSign (all_isLiteralChar_of_digits h.2)

/-- So is an exponent. -/
theorem all_isLiteralChar_of_exponent? {chars : List Char} {exponent : Int}
    (h : exponent? chars = some exponent) : chars.all isLiteralChar = true := by
  unfold exponent? at h
  split at h
  · rfl
  · rename_i c rest
    split at h
    · rename_i hmark
      rw [List.all_cons, all_isLiteralChar_of_isInteger hmark.2]
      rcases hmark.1 with rfl | rfl <;> decide
    · contradiction

/-- So are the words for infinity and for no number. -/
theorem all_isLiteralChar_of_ofWord? {negative : Bool} {word : List Char} {literal : Literal}
    (h : Literal.ofWord? negative word = some literal) : word.all isLiteralChar = true := by
  have hspelled : (word.map caselessLetter).all literalLetters.contains = true := by
    unfold Literal.ofWord? at h
    dsimp only at h
    split at h
    · rename_i hinfinity
      rcases hinfinity with hword | hword <;> rw [hword] <;> decide
    · split at h
      · rename_i hnan
        rw [hnan]
        decide
      · contradiction
  rw [List.all_eq_true]
  intro c hc
  have hletter := List.all_eq_true.mp hspelled _ (List.mem_map_of_mem hc)
  simp only [isLiteralChar, hletter, Bool.or_true]

/-- So is a decimal number. -/
theorem all_isLiteralChar_of_ofDecimal? {negative : Bool} {chars : List Char} {literal : Literal}
    (h : Literal.ofDecimal? negative chars = some literal) : chars.all isLiteralChar = true := by
  rw [← List.takeWhile_append_dropWhile (p := isDecimalDigit) (l := chars), List.all_append,
    all_isLiteralChar_takeWhile, Bool.true_and]
  unfold Literal.ofDecimal? at h
  dsimp only at h
  split at h
  · rename_i tail hpoint
    split at h
    · contradiction
    · obtain ⟨exponent, hexponent, -⟩ := Option.map_eq_some_iff.mp h
      rw [hpoint, List.all_cons,
        ← List.takeWhile_append_dropWhile (p := isDecimalDigit) (l := tail), List.all_append,
        all_isLiteralChar_takeWhile, all_isLiteralChar_of_exponent? hexponent]
      decide
  · split at h
    · contradiction
    · obtain ⟨exponent, hexponent, -⟩ := Option.map_eq_some_iff.mp h
      exact all_isLiteralChar_of_exponent? hexponent

/-- A number literal is made of nothing but its characters. -/
theorem all_isLiteralChar_of_ofChars? {chars : List Char} {literal : Literal}
    (h : Literal.ofChars? chars = some literal) : chars.all isLiteralChar = true := by
  apply all_isLiteralChar_of_splitSign
  unfold Literal.ofChars? at h
  rcases Option.or_eq_some_iff.mp h with hword | ⟨-, hdecimal⟩
  · exact all_isLiteralChar_of_ofWord? hword
  · exact all_isLiteralChar_of_ofDecimal? hdecimal

/-- The character may start a number literal. -/
def startsLiteral (c : Char) : Bool :=
  c = '-' || c = '+' || c = '.' || isDecimalDigit c || caselessLetter c = 'i' ||
    caselessLetter c = 'n'

/-- Nothing that starts with another character is a number literal. -/
theorem ofChars?_cons_eq_none {c : Char} (h : startsLiteral c = false) (rest : List Char) :
    Literal.ofChars? (c :: rest) = none := by
  simp only [startsLiteral, Bool.or_eq_false_iff, decide_eq_false_iff_not] at h
  obtain ⟨⟨⟨⟨⟨hminus, hplus⟩, hpoint⟩, hdigit⟩, hi⟩, hn⟩ := h
  have hsign : splitSign (c :: rest) = (false, c :: rest) := by
    unfold splitSign
    split <;> simp_all
  have hword : Literal.ofWord? false (c :: rest) = none := by
    simp [Literal.ofWord?, hi, hn]
  have hdecimal : Literal.ofDecimal? false (c :: rest) = none := by
    simp [Literal.ofDecimal?, hdigit, hpoint]
  simp [Literal.ofChars?, hsign, hword, hdecimal]

/-- Without the blanks around it, a word that reads as a number is a number literal. -/
theorem all_isLiteralChar_trim {token : String} {value : Float}
    (h : readNumber token = .ok value) : (trim token).toList.all isLiteralChar = true := by
  unfold readNumber at h
  dsimp only at h
  cases hliteral : Literal.ofChars? (trim token).toList with
  | none => simp [hliteral] at h
  | some literal => exact all_isLiteralChar_of_ofChars? hliteral

/-- A number literal holds no blank. -/
theorem any_isBlank_trim {token : String} {value : Float} (h : readNumber token = .ok value) :
    (trim token).toList.any isBlank = false := by
  have hall := List.all_eq_true.mp (all_isLiteralChar_trim h)
  rw [List.any_eq_false]
  intro c hc
  simp [isBlank_of_isLiteralChar (hall c hc)]

/-- Blanks around a number do not matter. -/
theorem readNumber_trim {token : String} {value : Float} (h : readNumber token = .ok value) :
    readNumber (trim token) = .ok value := by
  have hblank := any_isBlank_trim h
  unfold readNumber at h ⊢
  rw [trim_of_no_blank hblank]
  dsimp only at h ⊢
  cases hliteral : Literal.ofChars? (trim token).toList with
  | none => simp [hliteral] at h
  | some literal => simpa [hliteral] using h

/-- A word without blanks that reads as a number is a number literal. -/
theorem isLiteral_of_readNumber {token : String} {value : Float}
    (hblank : token.toList.any isBlank = false) (h : readNumber token = .ok value) :
    isLiteral token = true := by
  unfold readNumber at h
  rw [trim_of_no_blank hblank] at h
  unfold isLiteral
  cases hliteral : Literal.ofChars? token.toList with
  | none => simp [hliteral] at h
  | some literal => rfl

end Numeric

end UnitConversion

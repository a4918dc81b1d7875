import UnitConversion.Proofs.ValueWords

/-!
# The grammar of values

Number literals are described by how they are put together: a sign that may be left out, digits with
a point among them at most and an exponent behind them, or a word for infinity or for no number. The
reader accepts these texts and no others, except for the words that are misspelled with an i of
another alphabet: those it tells apart from the rest, and they stand for no number.
-/

namespace UnitConversion

open Text

namespace Numeric

/-- A sign that may be left out; true for a minus. -/
inductive SignMark : List Char → Bool → Prop
  /-- No sign. -/
  | none : SignMark [] false
  /-- A plus. -/
  | plus : SignMark ['+'] false
  /-- A minus. -/
  | minus : SignMark ['-'] true

/-- Some decimal digits, of any script, and nothing else. -/
structure Digits (chars : List Char) : Prop where
  /-- There is a digit. -/
  some_digit : chars ≠ []
  /-- There is nothing else. -/
  only : chars.all isDecimalDigit = true

/-- Digits with a point among them at most, told apart at the point. -/
inductive Mantissa : List Char → List Char → List Char → Prop
  /-- Digits without a point. -/
  | whole {whole : List Char} (digits : Digits whole) : Mantissa whole whole []
  /-- Digits, a point, and further digits or nothing. -/
  | pointed {whole fraction : List Char} (digits : Digits whole)
    (further : fraction.all isDecimalDigit = true) :
    Mantissa (whole ++ '.' :: fraction) whole fraction
  /-- A point and digits behind it. -/
  | fraction {fraction : List Char} (digits : Digits fraction) :
    Mantissa ('.' :: fraction) [] fraction

/-- An exponent that may be left out, with the number that it stands for. -/
inductive ExponentPart : List Char → Int → Prop
  /-- No exponent. -/
  | none : ExponentPart [] 0
  /-- The mark of an exponent, a sign that may be left out, and digits. -/
  | written {mark : Char} {sign digits : List Char} {negative : Bool}
    (hmark : mark = 'e' ∨ mark = 'E') (signed : SignMark sign negative) (number : Digits digits) :
    ExponentPart (mark :: (sign ++ digits))
      (if negative then -(digitsValue digits : Int) else digitsValue digits)

/-- The characters are the word in ASCII letters of any case. -/
def SpellsWord (chars : List Char) (word : String) : Prop := chars.map Char.toLower = word.toList

/-- The characters write the literal. -/
inductive Writes : List Char → Literal → Prop
  /-- A decimal number: the digits on both sides of the point, and as many powers of ten less as
  stand behind it. -/
  | decimal {sign mantissa whole fraction ending : List Char} {negative : Bool} {exponent : Int}
    (signed : SignMark sign negative) (digits : Mantissa mantissa whole fraction)
    (ends : ExponentPart ending exponent) :
    Writes (sign ++ (mantissa ++ ending))
      (.decimal negative (digitsValue (whole ++ fraction)) (exponent - fraction.length))
  /-- Infinity. -/
  | infinite {sign word : List Char} {negative : Bool} (signed : SignMark sign negative)
    (spelled : SpellsWord word "inf" ∨ SpellsWord word "infinity") :
    Writes (sign ++ word) (.infinite negative)
  /-- No number. -/
  | undefined {sign word : List Char} {negative : Bool} (signed : SignMark sign negative)
    (spelled : SpellsWord word "nan") : Writes (sign ++ word) .undefined

section Signs

variable {sign digits chars : List Char} {negative : Bool}

/-- The character is a sign. -/
def isSign (c : Char) : Bool := c = '+' || c = '-'

/-- The characters of decimal numbers other than digits. -/
def decimalMarks : List Char := ['+', '-', '.', 'e', 'E']

/-- Signs are among them. -/
theorem mem_decimalMarks_of_isSign {c : Char} (h : isSign c = true) : c ∈ decimalMarks := by
  simp only [isSign, Bool.or_eq_true, decide_eq_true_eq] at h
  rcases h with rfl | rfl <;> decide

/-- A sign is split off the front of what does not start with one. -/
theorem SignMark.splitSign_append (signed : SignMark sign negative)
    (hfirst : ∀ c ∈ chars.head?, isSign c = false) :
    splitSign (sign ++ chars) = (negative, chars) := by
  cases signed with
  | plus => rfl
  | minus => rfl
  | none =>
    rw [List.nil_append]
    unfold splitSign
    split
    · exact absurd (hfirst '-' rfl) (by decide)
    · exact absurd (hfirst '+' rfl) (by decide)
    · rfl

/-- What is split off the front is a sign. -/
theorem signMark_splitSign (chars : List Char) :
    ∃ sign, SignMark sign (splitSign chars).1 ∧ chars = sign ++ (splitSign chars).2 := by
  unfold splitSign
  split
  · exact ⟨_, .minus, rfl⟩
  · exact ⟨_, .plus, rfl⟩
  · exact ⟨_, .none, rfl⟩

/-- A digit is no sign. -/
theorem isSign_of_isDecimalDigit {c : Char} (h : isDecimalDigit c = true) : isSign c = false := by
  have hsigns : ['+', '-'].any isDecimalDigit = false := by decide
  by_contra hsign
  simp only [isSign, Bool.not_eq_false, Bool.or_eq_true, decide_eq_true_eq] at hsign
  exact List.any_eq_false.mp hsigns c (by simpa using hsign) h

/-- Digits start with a digit. -/
theorem Digits.starts (number : Digits digits) :
    ∃ first rest, digits = first :: rest ∧ isDecimalDigit first = true := by
  obtain ⟨first, rest, rfl⟩ := List.exists_cons_of_ne_nil number.some_digit
  have hall := number.only
  rw [List.all_cons, Bool.and_eq_true] at hall
  exact ⟨first, rest, rfl, hall.1⟩

/-- A sign before digits is split off them. -/
theorem SignMark.splitSign_digits (signed : SignMark sign negative) (number : Digits digits) :
    splitSign (sign ++ digits) = (negative, digits) := by
  obtain ⟨first, rest, rfl, hfirst⟩ := number.starts
  refine signed.splitSign_append fun c hc => ?_
  rw [List.head?_cons, Option.mem_some_iff] at hc
  exact hc ▸ isSign_of_isDecimalDigit hfirst

/-- An integer is a sign and digits. -/
theorem isInteger_iff : isInteger chars = true ↔
    ∃ sign negative digits, SignMark sign negative ∧ Digits digits ∧ chars = sign ++ digits := by
  constructor
  · intro h
    simp only [isInteger, Bool.and_eq_true, Bool.not_eq_true', List.isEmpty_eq_false_iff] at h
    obtain ⟨sign, signed, hchars⟩ := signMark_splitSign chars
    exact ⟨sign, _, _, signed, ⟨h.1, h.2⟩, hchars⟩
  · rintro ⟨sign, negative, digits, signed, number, rfl⟩
    simp [isInteger, signed.splitSign_digits number, number.some_digit, number.only]

end Signs

section Decimals

variable {chars ending mantissa whole fraction : List Char} {exponent : Int}

/-- The exponents that are read are those of the grammar. -/
theorem exponent?_eq_some_iff :
    exponent? ending = some exponent ↔ ExponentPart ending exponent := by
  constructor
  · intro h
    unfold exponent? at h
    split at h
    · cases h
      exact .none
    · rename_i mark rest
      split at h
      · rename_i hmark
        obtain ⟨sign, negative, digits, signed, number, rfl⟩ := isInteger_iff.mp hmark.2
        rw [signed.splitSign_digits number, Option.some.injEq] at h
        subst h
        exact .written hmark.1 signed number
      · contradiction
  · intro ends
    cases ends with
    | none => rfl
    | @written mark sign digits negative hmark signed number =>
      have hinteger : isInteger (sign ++ digits) = true :=
        isInteger_iff.mpr ⟨_, _, _, signed, number, rfl⟩
      unfold exponent?
      dsimp only
      rw [if_pos ⟨hmark, hinteger⟩, signed.splitSign_digits number]

/-- Digits are told apart from what follows them and starts with no digit. -/
theorem span_digits {digits rest : List Char} (hdigits : digits.all isDecimalDigit = true)
    (hrest : ∀ c ∈ rest.head?, isDecimalDigit c = false) :
    (digits ++ rest).takeWhile isDecimalDigit = digits ∧
      (digits ++ rest).dropWhile isDecimalDigit = rest := by
  rw [List.all_eq_true] at hdigits
  rw [List.takeWhile_append_of_pos hdigits, List.dropWhile_append_of_pos hdigits]
  cases rest with
  | nil => simp
  | cons c rest =>
    have hfirst := hrest c rfl
    simp [hfirst]

/-- An exponent starts with no digit. -/
theorem ExponentPart.starts (ends : ExponentPart ending exponent) :
    ∀ c ∈ ending.head?, isDecimalDigit c = false := by
  cases ends with
  | none => simp
  | written hmark signed number =>
    intro c hc
    rw [List.head?_cons, Option.mem_some_iff] at hc
    rcases hmark with rfl | rfl <;> subst hc <;> decide

/-- An exponent starts with no point. -/
theorem ExponentPart.ne_point (ends : ExponentPart ending exponent) (rest : List Char) :
    ending ≠ '.' :: rest := by
  rintro rfl
  cases ends with
  | written hmark => rcases hmark with h | h <;> exact absurd h (by decide)

/-- The digits and the exponent that the grammar gives are the ones that are read. -/
theorem ofDecimal?_of_mantissa (digits : Mantissa mantissa whole fraction)
    (ends : ExponentPart ending exponent) (negative : Bool) :
    Literal.ofDecimal? negative (mantissa ++ ending) =
      some (.decimal negative (digitsValue (whole ++ fraction)) (exponent - fraction.length)) := by
  have hending := exponent?_eq_some_iff.mpr ends
  have hpoint : ∀ rest : List Char, ∀ c ∈ ('.' :: rest).head?, isDecimalDigit c = false := by
    intro rest c hc
    rw [List.head?_cons, Option.mem_some_iff] at hc
    exact hc ▸ (by decide)
  unfold Literal.ofDecimal?
  cases digits with
  | whole digits =>
    obtain ⟨htake, hdrop⟩ := span_digits digits.only ends.starts
    rw [htake, hdrop]
    dsimp only
    split
    · rename_i tail
      exact absurd rfl (ends.ne_point tail)
    · simp [digits.some_digit, hending]
  | pointed digits further =>
    rw [List.append_assoc, List.cons_append]
    obtain ⟨htake, hdrop⟩ := span_digits digits.only (hpoint (fraction ++ ending))
    obtain ⟨htakeFraction, hdropFraction⟩ := span_digits further ends.starts
    rw [htake, hdrop]
    simp [htakeFraction, hdropFraction, digits.some_digit, hending]
  | fraction digits =>
    obtain ⟨htakeFraction, hdropFraction⟩ := span_digits digits.only ends.starts
    have hfirst : isDecimalDigit '.' = false := by decide
    rw [List.cons_append]
    simp [hfirst, htakeFraction, hdropFraction, digits.some_digit, hending]

/-- What is read as digits and an exponent is so by the grammar. -/
theorem mantissa_of_ofDecimal? {negative : Bool} {literal : Literal}
    (h : Literal.ofDecimal? negative chars = some literal) :
    ∃ mantissa whole fraction ending exponent, Mantissa mantissa whole fraction ∧
      ExponentPart ending exponent ∧ chars = mantissa ++ ending ∧ literal =
        .decimal negative (digitsValue (whole ++ fraction)) (exponent - fraction.length) := by
  have hwhole : (chars.takeWhile isDecimalDigit).all isDecimalDigit = true := List.all_takeWhile
  have hchars := (List.takeWhile_append_dropWhile (p := isDecimalDigit) (l := chars)).symm
  unfold Literal.ofDecimal? at h
  generalize chars.takeWhile isDecimalDigit = whole at h hwhole hchars
  generalize chars.dropWhile isDecimalDigit = afterWhole at h hchars
  dsimp only at h
  split at h
  · rename_i tail
    have hfraction : (tail.takeWhile isDecimalDigit).all isDecimalDigit = true :=
      List.all_takeWhile
    have htail := (List.takeWhile_append_dropWhile (p := isDecimalDigit) (l := tail)).symm
    generalize tail.takeWhile isDecimalDigit = fraction at h hfraction htail
    generalize tail.dropWhile isDecimalDigit = ending at h htail
    split at h
    · contradiction
    · rename_i hsome
      obtain ⟨exponent, hexponent, hliteral⟩ := Option.map_eq_some_iff.mp h
      have ends := exponent?_eq_some_iff.mp hexponent
      by_cases hempty : whole = []
      · subst hempty
        have hnonempty : fraction ≠ [] := by simpa using hsome
        exact ⟨_, _, _, _, _, .fraction ⟨hnonempty, hfraction⟩, ends, by simp [hchars, htail],
          hliteral.symm⟩
      · exact ⟨_, _, _, _, _, .pointed ⟨hempty, hwhole⟩ hfraction, ends, by simp [hchars, htail],
          hliteral.symm⟩
  · split at h
    · contradiction
    · rename_i hsome
      obtain ⟨exponent, hexponent, hliteral⟩ := Option.map_eq_some_iff.mp h
      have hnonempty : whole ≠ [] := by simpa using hsome
      exact ⟨_, _, _, _, _, .whole ⟨hnonempty, hwhole⟩, exponent?_eq_some_iff.mp hexponent, hchars,
        by simpa using hliteral.symm⟩

end Decimals

section Words

variable {chars : List Char} {word : String} {negative : Bool} {literal : Literal}

/-- In ASCII a letter in any case is the letter in small letters. -/
theorem caselessLetter_of_ascii {c : Char} (h : c.toNat < 128) : caselessLetter c = c.toLower :=
  if_neg (by omega)

/-- The words of the grammar are the words in any case that are made of ASCII letters. -/
theorem spellsWord_iff (hword : word.toList ∈ specialWords) : SpellsWord chars word ↔
    chars.map caselessLetter = word.toList ∧ chars.all (·.toNat < 128) = true := by
  have hsame : chars.all (·.toNat < 128) = true →
      chars.map caselessLetter = chars.map Char.toLower := by
    intro hascii
    refine List.map_congr_left fun c hc => caselessLetter_of_ascii ?_
    simpa using List.all_eq_true.mp hascii c hc
  constructor
  · intro hspells
    have hascii : chars.all (·.toNat < 128) = true := by
      rw [List.all_eq_true]
      intro c hc
      have hin : c.toLower ∈ word.toList := by
        rw [← hspells]
        exact List.mem_map_of_mem hc
      have hlower := toNat_lt_of_mem_specialWords hword hin
      rw [decide_eq_true_eq]
      by_contra hlarge
      rw [toLower_of_not_capital (.inr (by omega))] at hlower
      exact hlarge hlower
    exact ⟨(hsame hascii).trans hspells, hascii⟩
  · rintro ⟨hcaseless, hascii⟩
    exact (hsame hascii).symm.trans hcaseless

/-- A word is read as the grammar says, unless it is misspelled. -/
theorem ofWord?_iff : Literal.ofWord? negative chars = some literal ∧ literal ≠ .misspelled ↔
    (literal = .infinite negative ∧ (SpellsWord chars "inf" ∨ SpellsWord chars "infinity")) ∨
      (literal = .undefined ∧ SpellsWord chars "nan") := by
  have hinf : "inf".toList ≠ "nan".toList := by decide
  have hinfinity : "infinity".toList ≠ "nan".toList := by decide
  rw [spellsWord_iff (by simp [specialWords]), spellsWord_iff (by simp [specialWords]),
    spellsWord_iff (by simp [specialWords]), ← or_and_right]
  unfold Literal.ofWord?
  dsimp only
  generalize chars.map caselessLetter = spelled
  generalize chars.all (·.toNat < 128) = ascii
  generalize "inf".toList = short, "infinity".toList = long, "nan".toList = other at *
  have hknown : ∀ value : Literal, value ≠ .misspelled →
      (some (if ascii = true then value else .misspelled) = some literal ∧ literal ≠ .misspelled ↔
        literal = value ∧ ascii = true) := by
    intro value hvalue
    cases ascii with
    | true =>
      simp only [if_true, and_true, Option.some.injEq]
      constructor
      · exact fun h => h.1.symm
      · rintro rfl
        exact ⟨rfl, hvalue⟩
    | false =>
      simp only [Bool.false_eq_true, if_false, and_false, iff_false, Option.some.injEq]
      exact fun h => h.2 h.1.symm
  by_cases hlimit : spelled = short ∨ spelled = long
  · have hother : spelled ≠ other := by
      rintro rfl
      exact hlimit.elim (hinf ·.symm) (hinfinity ·.symm)
    rw [if_pos hlimit, hknown _ (by simp)]
    simp only [hlimit, hother, true_and, false_and, and_false, or_false]
  · rw [if_neg hlimit]
    by_cases hother : spelled = other
    · subst hother
      rw [if_pos rfl, hknown _ (by simp)]
      simp only [hlimit, true_and, false_and, and_false, false_or]
    · rw [if_neg hother]
      simp only [hlimit, hother, reduceCtorEq, false_and, and_false, or_false]

/-- What starts with no letter of the words is none of them. -/
theorem ofWord?_of_starts {first : Char} (hi : caselessLetter first ≠ 'i')
    (hn : caselessLetter first ≠ 'n') (negative : Bool) (rest : List Char) :
    Literal.ofWord? negative (first :: rest) = none := by
  simp [Literal.ofWord?, hi, hn]

/-- The characters of decimal numbers other than digits stand in no word. -/
theorem SpellsWord.not_mem_decimalMarks (h : SpellsWord chars word)
    (hword : word.toList ∈ specialWords) : ∀ c ∈ chars, c ∉ decimalMarks := by
  have hnone : specialWords.any (fun word => decimalMarks.any (word.contains ·.toLower)) =
      false := by decide
  have hapart := Bool.eq_false_iff.mpr (List.any_eq_false.mp hnone _ hword)
  intro c hc hmark
  have hlower : c.toLower ∈ word.toList := by
    rw [← h]
    exact List.mem_map_of_mem hc
  exact List.any_eq_false.mp hapart c hmark (by simpa using hlower)

end Words

section Literals

variable {chars : List Char} {literal : Literal}

/-- Digits with a point among them start with a digit or with the point. -/
theorem Mantissa.starts {mantissa whole fraction : List Char}
    (digits : Mantissa mantissa whole fraction) :
    ∃ first rest, mantissa = first :: rest ∧ (isDecimalDigit first = true ∨ first = '.') := by
  cases digits with
  | whole digits =>
    obtain ⟨first, rest, rfl, hfirst⟩ := digits.starts
    exact ⟨first, rest, rfl, .inl hfirst⟩
  | pointed digits further =>
    obtain ⟨first, rest, rfl, hfirst⟩ := digits.starts
    exact ⟨first, _, rfl, .inl hfirst⟩
  | fraction digits => exact ⟨'.', _, rfl, .inr rfl⟩

/-- A digit or a point is no sign, and no word starts with one. -/
theorem starts_apart {first : Char} (h : isDecimalDigit first = true ∨ first = '.') :
    isSign first = false ∧ caselessLetter first ≠ 'i' ∧ caselessLetter first ≠ 'n' := by
  have hletters : isDecimalDigit 'i' = false ∧ isDecimalDigit 'n' = false := by decide
  rcases h with hdigit | rfl
  · rw [caselessLetter_of_isDecimalDigit hdigit]
    refine ⟨isSign_of_isDecimalDigit hdigit, ?_, ?_⟩
    · rintro rfl
      exact absurd hdigit (by simp [hletters.1])
    · rintro rfl
      exact absurd hdigit (by simp [hletters.2])
  · decide

/-- A word behind a sign is read as the literal that the grammar gives. -/
theorem ofChars?_of_word {sign word : List Char} {negative : Bool} (signed : SignMark sign negative)
    (hmarks : ∀ c ∈ word, c ∉ decimalMarks)
    (h : Literal.ofWord? negative word = some literal) :
    Literal.ofChars? (sign ++ word) = some literal := by
  have hsplit : splitSign (sign ++ word) = (negative, word) := by
    refine signed.splitSign_append fun c hc => ?_
    by_contra hsign
    exact hmarks c (List.mem_of_mem_head? hc) (mem_decimalMarks_of_isSign (by simpa using hsign))
  unfold Literal.ofChars?
  rw [hsplit]
  dsimp only
  rw [h, Option.some_or]

/-- The literals that are read are those that the grammar gives and the misspelled words. -/
theorem writes_iff : Writes chars literal ↔
    Literal.ofChars? chars = some literal ∧ literal ≠ .misspelled := by
  constructor
  · intro writes
    cases writes with
    | @decimal sign mantissa whole fraction ending negative exponent signed digits ends =>
      refine ⟨?_, by simp⟩
      have hdecimal := ofDecimal?_of_mantissa digits ends negative
      obtain ⟨first, rest, rfl, hfirst⟩ := digits.starts
      obtain ⟨hsign, hi, hn⟩ := starts_apart hfirst
      rw [List.cons_append] at hdecimal ⊢
      unfold Literal.ofChars?
      rw [signed.splitSign_append (by simpa using hsign)]
      dsimp only
      rw [ofWord?_of_starts hi hn, Option.none_or, hdecimal]
    | @infinite sign word negative signed spelled =>
      obtain ⟨hword, hknown⟩ := (@ofWord?_iff word negative _).mpr (.inl ⟨rfl, spelled⟩)
      refine ⟨ofChars?_of_word signed ?_ hword, hknown⟩
      rcases spelled with h | h
      · exact h.not_mem_decimalMarks (by simp [specialWords])
      · exact h.not_mem_decimalMarks (by simp [specialWords])
    | @undefined sign word negative signed spelled =>
      obtain ⟨hword, hknown⟩ := (@ofWord?_iff word negative _).mpr (.inr ⟨rfl, spelled⟩)
      exact ⟨ofChars?_of_word signed (spelled.not_mem_decimalMarks (by simp [specialWords])) hword,
        hknown⟩
  · rintro ⟨h, hknown⟩
    obtain ⟨sign, signed, hchars⟩ := signMark_splitSign chars
    unfold Literal.ofChars? at h
    dsimp only at h
    rw [hchars]
    rcases Option.or_eq_some_iff.mp h with hword | ⟨-, hdecimal⟩
    · rcases ofWord?_iff.mp ⟨hword, hknown⟩ with ⟨rfl, spelled⟩ | ⟨rfl, spelled⟩
      · exact .infinite signed spelled
      · exact .undefined signed spelled
    · obtain ⟨mantissa, whole, fraction, ending, exponent, digits, ends, hbody, rfl⟩ :=
        mantissa_of_ofDecimal? hdecimal
      rw [hbody]
      exact .decimal signed digits ends

-- The digits may be those of any script, and none is needed before the point.
example : Literal.ofChars? "-.5e+٣".toList = some (.decimal true 5 2) := by decide

end Literals

end Numeric

end UnitConversion

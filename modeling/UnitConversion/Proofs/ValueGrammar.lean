import UnitConversion.Proofs.FiniteDecimals
import UnitConversion.Proofs.NumberGrammar

/-!
# Words that stand for values

What a word of a line stands for as a value is settled by the grammar of number literals: a number
when a literal is written there, a recall when it is the sign of one, and nothing in every other
case. Some texts are no number whatever stands around them, such as an underscore, a sign in the
middle, a point without digits or an exponent without them.
-/

namespace UnitConversion

open Text

namespace Numeric

/-- The text writes no number, whatever else stands in it. -/
inductive Barred : List Char → Prop
  /-- An underscore, a comma, the letter of a hexadecimal number, or a blank. -/
  | stray {chars : List Char} {c : Char} (hin : c ∈ chars)
    (hstray : c ∈ ['_', ',', 'x', 'X'] ∨ isBlank c = true) : Barred chars
  /-- A sign behind anything but the mark of an exponent. -/
  | sign {before after : List Char} {c sign : Char} (hsign : isSign sign = true)
    (hbehind : ¬(c = 'e' ∨ c = 'E')) : Barred (before ++ c :: sign :: after)
  /-- A point without a digit on either side. -/
  | point {before after : List Char} (hbefore : ∀ c ∈ before.getLast?, isDecimalDigit c = false)
    (hafter : ∀ c ∈ after.head?, isDecimalDigit c = false) : Barred (before ++ '.' :: after)
  /-- The mark of an exponent without digits before it or without digits behind it. -/
  | exponent {before after : List Char} {mark : Char} (hmark : mark = 'e' ∨ mark = 'E')
    (hbare : before.any isDecimalDigit = false ∨ after.any isDecimalDigit = false) :
    Barred (before ++ mark :: after)

/-- A sign stands behind the mark of an exponent only. -/
def SignBehindMark (c next : Char) : Prop := isSign next = true → c = 'e' ∨ c = 'E'

variable {sign mantissa whole fraction ending : List Char} {negative : Bool} {exponent : Int}

/-- A sign holds signs only. -/
theorem SignMark.all_isSign (signed : SignMark sign negative) : ∀ c ∈ sign, isSign c = true := by
  cases signed with
  | none => simp
  | plus => simp [isSign]
  | minus => simp [isSign]

/-- Among digits stands nothing but digits. -/
theorem Digits.not_mem {digits : List Char} (hdigits : digits.all isDecimalDigit = true) {c : Char}
    (h : isDecimalDigit c = false) : c ∉ digits := by
  intro hin
  rw [List.all_eq_true.mp hdigits c hin] at h
  contradiction

/-- Digits and points stand in the digits before an exponent. -/
theorem Mantissa.mem (digits : Mantissa mantissa whole fraction) {c : Char} (hc : c ∈ mantissa) :
    isDecimalDigit c = true ∨ c = '.' := by
  cases digits with
  | whole digits => exact .inl (List.all_eq_true.mp digits.only c hc)
  | pointed digits further =>
    rcases List.mem_append.mp hc with hin | hin
    · exact .inl (List.all_eq_true.mp digits.only c hin)
    · rcases List.mem_cons.mp hin with rfl | hlater
      · exact .inr rfl
      · exact .inl (List.all_eq_true.mp further c hlater)
  | fraction digits =>
    rcases List.mem_cons.mp hc with rfl | hlater
    · exact .inr rfl
    · exact .inl (List.all_eq_true.mp digits.only c hlater)

/-- There is a digit among digits. -/
theorem Digits.any_isDecimalDigit {digits : List Char} (number : Digits digits) :
    digits.any isDecimalDigit = true := by
  obtain ⟨first, rest, rfl, hfirst⟩ := number.starts
  rw [List.any_cons, hfirst, Bool.true_or]

/-- There is a digit before an exponent. -/
theorem Mantissa.any_isDecimalDigit (digits : Mantissa mantissa whole fraction) :
    mantissa.any isDecimalDigit = true := by
  cases digits with
  | whole digits => exact digits.any_isDecimalDigit
  | pointed digits further => rw [List.any_append, digits.any_isDecimalDigit, Bool.true_or]
  | fraction digits => rw [List.any_cons, digits.any_isDecimalDigit, Bool.or_true]

/-- No point stands in an exponent. -/
theorem ExponentPart.point_not_mem (ends : ExponentPart ending exponent) : '.' ∉ ending := by
  cases ends with
  | none => simp
  | written hmark signed number =>
    have hsign : '.' ∉ _ := fun h => absurd (signed.all_isSign '.' h) (by decide)
    have hdigits : '.' ∉ _ := Digits.not_mem number.only (by decide)
    rcases hmark with rfl | rfl <;> simp [hsign, hdigits]

/-- Signs stand where they may when no sign follows. -/
theorem isChain_append_of_no_sign {before after : List Char}
    (hbefore : before.IsChain SignBehindMark) (hafter : ∀ c ∈ after, isSign c = false) :
    (before ++ after).IsChain SignBehindMark := by
  have hnone : ∀ c next, next ∈ after → SignBehindMark c next := by
    intro c next hnext hsign
    rw [hafter next hnext] at hsign
    contradiction
  refine hbefore.append (List.Pairwise.isChain (List.pairwise_of_forall_mem_list ?_)) ?_
  · exact fun c _ next hnext => hnone c next hnext
  · exact fun c _ next hnext => hnone c next (List.mem_of_mem_head? hnext)

/-- A sign in front stands where it may. -/
theorem SignMark.isChain (signed : SignMark sign negative) : sign.IsChain SignBehindMark := by
  cases signed with
  | none => exact .nil
  | plus => exact .singleton _
  | minus => exact .singleton _

variable {chars before after : List Char} {literal : Literal}

/-- A literal is digits and an exponent behind a sign, or what stands behind its sign has none of
the other characters of decimal numbers. -/
theorem Writes.parts (writes : Writes chars literal) : ∃ sign negative body,
    SignMark sign negative ∧ chars = sign ++ body ∧
      ((∀ c ∈ body, c ∉ decimalMarks) ∨
        ∃ mantissa whole fraction ending exponent, Mantissa mantissa whole fraction ∧
          ExponentPart ending exponent ∧ body = mantissa ++ ending) := by
  cases writes with
  | decimal signed digits ends =>
    exact ⟨_, _, _, signed, rfl, .inr ⟨_, _, _, _, _, digits, ends, rfl⟩⟩
  | infinite signed spelled =>
    refine ⟨_, _, _, signed, rfl, .inl ?_⟩
    rcases spelled with h | h
    · exact h.not_mem_decimalMarks (by simp [specialWords])
    · exact h.not_mem_decimalMarks (by simp [specialWords])
  | undefined signed spelled =>
    exact ⟨_, _, _, signed, rfl, .inl (spelled.not_mem_decimalMarks (by simp [specialWords]))⟩

/-- In a literal a sign stands in front or behind the mark of an exponent. -/
theorem Writes.isChain (writes : Writes chars literal) : chars.IsChain SignBehindMark := by
  obtain ⟨sign, negative, body, signed, rfl,
    hmarks | ⟨mantissa, whole, fraction, ending, exponent, digits, ends, rfl⟩⟩ := writes.parts
  · refine isChain_append_of_no_sign signed.isChain fun c hc => ?_
    by_contra hsign
    exact hmarks c hc (mem_decimalMarks_of_isSign (by simpa using hsign))
  · have hmantissa : ∀ c ∈ mantissa, isSign c = false := by
      intro c hc
      rcases digits.mem hc with hdigit | rfl
      · exact isSign_of_isDecimalDigit hdigit
      · decide
    have hfront := isChain_append_of_no_sign signed.isChain hmantissa
    rw [← List.append_assoc]
    cases ends with
    | none => rwa [List.append_nil]
    | @written mark markSign number markNegative hmark markSigned digits =>
      have hmarked : (sign ++ mantissa ++ [mark]).IsChain SignBehindMark := by
        refine isChain_append_of_no_sign hfront fun c hc => ?_
        rw [List.mem_singleton] at hc
        rcases hmark with rfl | rfl <;> subst hc <;> decide
      have hsigned : (sign ++ mantissa ++ [mark] ++ markSign).IsChain SignBehindMark := by
        refine hmarked.append markSigned.isChain fun c hc _ _ _ => ?_
        rw [List.getLast?_concat, Option.mem_some_iff] at hc
        exact hc ▸ hmark
      have hall := isChain_append_of_no_sign hsigned fun c hc =>
        isSign_of_isDecimalDigit (List.all_eq_true.mp digits.only c hc)
      simpa using hall

/-- In a literal a digit stands on one side of a point. -/
theorem Writes.digit_beside_point (writes : Writes (before ++ '.' :: after) literal) :
    (∃ c ∈ before.getLast?, isDecimalDigit c = true) ∨
      ∃ c ∈ after.head?, isDecimalDigit c = true := by
  obtain ⟨sign, negative, body, signed, hchars, hparts⟩ := writes.parts
  have hin : '.' ∈ sign ++ body := by
    rw [← hchars]
    simp
  have hsign : '.' ∉ sign := fun h => absurd (signed.all_isSign _ h) (by decide)
  have hdigit : isDecimalDigit '.' = false := by decide
  rcases hparts with hmarks | ⟨mantissa, whole, fraction, ending, exponent, digits, ends, rfl⟩
  · exact absurd (by decide) (hmarks '.' ((List.mem_append.mp hin).resolve_left hsign))
  · have hending := ends.point_not_mem
    cases digits with
    | whole digits => simp [hsign, hending, Digits.not_mem digits.only hdigit] at hin
    | pointed digits further =>
      have hsplit : sign ++ whole ++ '.' :: (fraction ++ ending) = before ++ '.' :: after := by
        simpa using hchars.symm
      have hwhole := Digits.not_mem digits.only hdigit
      have hfraction := Digits.not_mem further hdigit
      obtain ⟨rfl, -⟩ := (List.append_cons_inj_of_notMem (by simp [hsign, hwhole])
        (by simp [hfraction, hending])).mp hsplit
      have hlast := List.getLast_mem digits.some_digit
      refine .inl ⟨_, ?_, List.all_eq_true.mp digits.only _ hlast⟩
      rw [List.getLast?_append_of_ne_nil _ digits.some_digit]
      exact List.getLast?_eq_getLast_of_ne_nil digits.some_digit
    | fraction digits =>
      have hsplit : sign ++ '.' :: (fraction ++ ending) = before ++ '.' :: after := by
        simpa using hchars.symm
      have hfraction := Digits.not_mem digits.only hdigit
      obtain ⟨-, -, rfl⟩ := (List.append_cons_inj_of_notMem hsign
        (by simp [hfraction, hending])).mp hsplit
      obtain ⟨first, rest, rfl, hfirst⟩ := digits.starts
      exact .inr ⟨first, rfl, hfirst⟩

/-- In a literal digits stand on both sides of the mark of an exponent. -/
theorem Writes.digits_around_mark {mark : Char} (hmark : mark = 'e' ∨ mark = 'E')
    (writes : Writes (before ++ mark :: after) literal) :
    before.any isDecimalDigit = true ∧ after.any isDecimalDigit = true := by
  obtain ⟨sign, negative, body, signed, hchars, hparts⟩ := writes.parts
  have hin : mark ∈ sign ++ body := by
    rw [← hchars]
    simp
  have hplain : isDecimalDigit mark = false ∧ isSign mark = false ∧ mark ∈ decimalMarks ∧
      mark ≠ '.' := by
    rcases hmark with rfl | rfl <;> decide
  obtain ⟨hdigit, hsigned, hmarked, hpoint⟩ := hplain
  have hsign : ∀ {sign : List Char} {negative : Bool}, SignMark sign negative → mark ∉ sign := by
    intro sign negative signed h
    rw [signed.all_isSign _ h] at hsigned
    contradiction
  rcases hparts with hmarks | ⟨mantissa, whole, fraction, ending, exponent, digits, ends, rfl⟩
  · exact absurd hmarked (hmarks mark ((List.mem_append.mp hin).resolve_left (hsign signed)))
  · have hmantissa : mark ∉ mantissa := by
      intro h
      rcases digits.mem h with hfound | rfl
      · rw [hfound] at hdigit
        contradiction
      · exact hpoint rfl
    cases ends with
    | none => simp [hsign signed, hmantissa] at hin
    | @written other markSign number markNegative hother markSigned number_digits =>
      have hsplit : sign ++ mantissa ++ other :: (markSign ++ number) =
          before ++ mark :: after := by
        simpa using hchars.symm
      have hnumber := Digits.not_mem number_digits.only hdigit
      obtain ⟨rfl, -, rfl⟩ := (List.append_cons_inj_of_notMem (by simp [hsign signed, hmantissa])
        (by simp [hsign markSigned, hnumber])).mp hsplit
      rw [List.any_append, List.any_append, digits.any_isDecimalDigit,
        number_digits.any_isDecimalDigit]
      simp

/-- No literal has any of these. -/
theorem not_writes_of_barred (h : Barred chars) (literal : Literal) : ¬Writes chars literal := by
  intro writes
  cases h with
  | @stray _ c hin hstray =>
    have hchars := all_isLiteralChar_of_ofChars? (writes_iff.mp writes).1
    have hliteral := List.all_eq_true.mp hchars c hin
    rcases hstray with hlisted | hblank
    · have hnone : ['_', ',', 'x', 'X'].any isLiteralChar = false := by decide
      exact List.any_eq_false.mp hnone c hlisted hliteral
    · rw [isBlank_of_isLiteralChar hliteral] at hblank
      contradiction
  | sign hsign hbehind =>
    exact hbehind ((List.isChain_append_cons_cons.mp writes.isChain).2.1 hsign)
  | point hbefore hafter =>
    rcases writes.digit_beside_point with ⟨c, hc, hdigit⟩ | ⟨c, hc, hdigit⟩
    · rw [hbefore c hc] at hdigit
      contradiction
    · rw [hafter c hc] at hdigit
      contradiction
  | exponent hmark hbare =>
    obtain ⟨hbefore, hafter⟩ := writes.digits_around_mark hmark
    rcases hbare with h | h
    · rw [h] at hbefore
      contradiction
    · rw [h] at hafter
      contradiction

/-- A token is read as the number of the literal that it writes, blanks around it removed. -/
theorem readNumber_eq_ok_iff {token : String} {value : Float} : readNumber token = .ok value ↔
    ∃ literal, Writes (trim token).toList literal ∧ literal.value? = some value := by
  unfold readNumber
  dsimp only
  constructor
  · intro h
    cases hliteral : Literal.ofChars? (trim token).toList with
    | none => simp [hliteral] at h
    | some literal =>
      rw [hliteral] at h
      dsimp only at h
      cases hvalue : literal.value? with
      | none => simp [hvalue] at h
      | some number =>
        rw [hvalue] at h
        cases h
        refine ⟨literal, writes_iff.mpr ⟨hliteral, ?_⟩, hvalue⟩
        rintro rfl
        exact Option.some_ne_none value hvalue.symm
  · rintro ⟨literal, writes, hvalue⟩
    rw [(writes_iff.mp writes).1]
    dsimp only
    rw [hvalue]

/-- What writes a literal stands for a number. -/
theorem Writes.exists_value (writes : Writes chars literal) :
    ∃ value, literal.value? = some value := by
  rw [← Option.isSome_iff_exists, ← Option.ne_none_iff_isSome, ne_eq, Literal.value?_eq_none_iff]
  exact (writes_iff.mp writes).2

/-- A token is read as a number when a literal is written there. -/
theorem exists_readNumber_iff_writes {token : String} :
    (∃ value, readNumber token = .ok value) ↔ ∃ literal, Writes (trim token).toList literal := by
  constructor
  · rintro ⟨value, h⟩
    obtain ⟨literal, writes, -⟩ := readNumber_eq_ok_iff.mp h
    exact ⟨literal, writes⟩
  · rintro ⟨literal, writes⟩
    obtain ⟨value, hvalue⟩ := writes.exists_value
    exact ⟨value, readNumber_eq_ok_iff.mpr ⟨literal, writes, hvalue⟩⟩

end Numeric

namespace ValueExpression

open Numeric

/-- What becomes of a word that stands for a value. -/
inductive Means (token : String) : Except ConversionError ValueExpression → Prop
  /-- The sign of a recall recalls a value. -/
  | recalled (h : token = ":") : Means token (.ok .recalled)
  /-- A literal of a finite number is the number. -/
  | value {literal : Literal} {value : Float} (writes : Writes (trim token).toList literal)
    (hvalue : literal.value? = some value) (finite : value.isFinite = true) :
    Means token (.ok (.literal value))
  /-- Every other literal is refused as not finite. -/
  | notFinite {literal : Literal} {value : Float} (writes : Writes (trim token).toList literal)
    (hvalue : literal.value? = some value) (infinite : value.isFinite = false) :
    Means token (.error (.invalidValue token (some "not finite")))
  /-- All else is refused without a reason. -/
  | invalid (hrecall : token ≠ ":") (nothing : ∀ literal, ¬Writes (trim token).toList literal) :
    Means token (.error (.invalidValue token none))

variable {token : String}

/-- A number is no sign of a recall. -/
theorem ne_recallText_of_writes {literal : Literal} (writes : Writes (trim token).toList literal) :
    token ≠ recallText := by
  rintro rfl
  have hnone : Literal.ofChars? (trim recallText).toList = none := by decide
  rw [(writes_iff.mp writes).1] at hnone
  exact Option.some_ne_none literal hnone

/-- A word that writes a number is read as that, when it is finite. -/
theorem read_of_writes {literal : Literal} {value : Float}
    (writes : Writes (trim token).toList literal) (hvalue : literal.value? = some value) :
    read token = if value.isFinite then .ok (.literal value)
      else .error (.invalidValue token (some "not finite")) := by
  rw [read, if_neg (ne_recallText_of_writes writes),
    readNumber_eq_ok_iff.mpr ⟨literal, writes, hvalue⟩]

/-- Reading a word comes to what the word means. -/
theorem read_of_means {outcome : Except ConversionError ValueExpression}
    (means : Means token outcome) : read token = outcome := by
  cases means with
  | recalled h => exact if_pos h
  | value writes hvalue finite => rw [read_of_writes writes hvalue, if_pos finite]
  | notFinite writes hvalue infinite =>
    rw [read_of_writes writes hvalue, infinite, if_neg Bool.false_ne_true]
  | invalid hrecall nothing =>
    have hother : token ≠ recallText := hrecall
    have hnumber : ¬∃ value, readNumber token = .ok value := by
      rw [exists_readNumber_iff_writes]
      rintro ⟨found, writes⟩
      exact nothing found writes
    rw [read, if_neg hother]
    cases hread : readNumber token with
    | ok value => exact absurd ⟨value, hread⟩ hnumber
    | error fault => rfl

/-- Every word means something. -/
theorem exists_means (token : String) : ∃ outcome, Means token outcome := by
  by_cases hwrites : ∃ literal, Writes (trim token).toList literal
  · obtain ⟨literal, writes⟩ := hwrites
    obtain ⟨value, hvalue⟩ := writes.exists_value
    cases hfinite : value.isFinite with
    | true => exact ⟨_, .value writes hvalue hfinite⟩
    | false => exact ⟨_, .notFinite writes hvalue hfinite⟩
  · by_cases hrecall : token = ":"
    · exact ⟨_, .recalled hrecall⟩
    · exact ⟨_, .invalid hrecall fun literal writes => hwrites ⟨literal, writes⟩⟩

/-- Words are read as values by the grammar. A token is a number when a literal is written there,
blanks around it removed, and never when something is there that bars it; the number is finite when
the literal is below the bound. What becomes of the token is what it means, and nothing else. -/
theorem values_by_grammar (token : String) :
    ((∃ value, readNumber token = .ok value) ↔ ∃ literal, Writes (trim token).toList literal) ∧
    (Barred (trim token).toList → ∀ value, readNumber token ≠ .ok value) ∧
    (∀ literal value, Writes (trim token).toList literal → literal.value? = some value →
      (value.isFinite = true ↔ literal.InRange)) ∧
    ∀ outcome, read token = outcome ↔ Means token outcome := by
  refine ⟨exists_readNumber_iff_writes, ?_, ?_, ?_⟩
  · intro barred value h
    obtain ⟨literal, writes, -⟩ := readNumber_eq_ok_iff.mp h
    exact not_writes_of_barred barred literal writes
  · exact fun literal value _ hvalue => Literal.isFinite_value_iff hvalue
  · intro outcome
    constructor
    · rintro rfl
      obtain ⟨outcome, means⟩ := exists_means token
      rwa [read_of_means means]
    · exact read_of_means

end ValueExpression

end UnitConversion

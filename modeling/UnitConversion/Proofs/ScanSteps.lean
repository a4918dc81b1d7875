import UnitConversion.Line
import UnitConversion.Proofs.Outcomes

/-!
# The steps of a scan

What a scan does at the next character, one equation for each kind of character, and the scans that
come to tokens as derivations made of these steps.
-/

namespace UnitConversion.Line

variable {isDelimiter : Char → Bool} {keepEscapes : Bool} {column start : Nat}
  {reversed chars rest : List Char} {tokens : List Token} {c : Char}

/-- Behind an escape a character other than a line break is taken as it is. -/
theorem scan_escaped (hbreak : isBreak c = false) (column start : Nat)
    (reversed rest : List Char) :
    scan isDelimiter keepEscapes column start reversed (escape :: c :: rest) =
      scan isDelimiter keepEscapes (column + 2) start
        (c :: if keepEscapes then escape :: reversed else reversed) rest := by
  rw [scan]
  simp only [hbreak, if_true, if_false, Bool.false_eq_true]

/-- An escape with the end of the line behind it is refused. -/
theorem scan_dangling (h : ∀ c ∈ rest.head?, isBreak c = true) (column start : Nat)
    (reversed : List Char) :
    scan isDelimiter keepEscapes column start reversed (escape :: rest) = .error ⟨column + 1⟩ := by
  rw [scan.eq_def]
  cases rest with
  | nil => rfl
  | cons c rest => simp only [h c rfl, if_true]

/-- At a comment and at a line break the scan stops. -/
theorem scan_end (hescape : c ≠ escape) (hends : (decide (c = comment) || isBreak c) = true)
    (column start : Nat) (reversed rest : List Char) :
    scan isDelimiter keepEscapes column start reversed (c :: rest) = .ok [run start reversed] := by
  rw [scan.eq_def]
  simp only [hescape, hends, if_true, if_false]

/-- At a delimiter the run ends and the next one starts. -/
theorem scan_delimiter (hdelimiter : isDelimiter c = true) (hescape : c ≠ escape)
    (hgoes : (decide (c = comment) || isBreak c) = false) (column start : Nat)
    (reversed rest : List Char) :
    scan isDelimiter keepEscapes column start reversed (c :: rest) =
      (scan isDelimiter keepEscapes (column + 1) (column + 1) [] rest).map fun tokens =>
        run start reversed :: ⟨String.singleton c, true, column⟩ :: tokens := by
  rw [scan.eq_def]
  simp only [hescape, hgoes, hdelimiter, if_true, if_false, Bool.false_eq_true]

/-- Any other character belongs to the run. -/
theorem scan_plain (hdelimiter : isDelimiter c = false) (hescape : c ≠ escape)
    (hgoes : (decide (c = comment) || isBreak c) = false) (column start : Nat)
    (reversed rest : List Char) :
    scan isDelimiter keepEscapes column start reversed (c :: rest) =
      scan isDelimiter keepEscapes (column + 1) start (c :: reversed) rest := by
  rw [scan.eq_def]
  simp only [hescape, hgoes, hdelimiter, if_false, Bool.false_eq_true]

/-- The scan of the characters comes to the tokens. -/
inductive Scanned (isDelimiter : Char → Bool) (keepEscapes : Bool) :
    Nat → Nat → List Char → List Char → List Token → Prop
  /-- Nothing is left. -/
  | nil {column start : Nat} {reversed : List Char} :
      Scanned isDelimiter keepEscapes column start reversed [] [run start reversed]
  /-- The scan stops. -/
  | stop {column start : Nat} {reversed rest : List Char} {c : Char} (hescape : c ≠ escape)
      (hends : (decide (c = comment) || isBreak c) = true) :
      Scanned isDelimiter keepEscapes column start reversed (c :: rest) [run start reversed]
  /-- A character behind an escape. -/
  | escaped {column start : Nat} {reversed rest : List Char} {tokens : List Token} {c : Char}
      (hbreak : isBreak c = false)
      (later : Scanned isDelimiter keepEscapes (column + 2) start
        (c :: if keepEscapes then escape :: reversed else reversed) rest tokens) :
      Scanned isDelimiter keepEscapes column start reversed (escape :: c :: rest) tokens
  /-- A delimiter. -/
  | cut {column start : Nat} {reversed rest : List Char} {tokens : List Token} {c : Char}
      (hdelimiter : isDelimiter c = true) (hescape : c ≠ escape)
      (hgoes : (decide (c = comment) || isBreak c) = false)
      (later : Scanned isDelimiter keepEscapes (column + 1) (column + 1) [] rest tokens) :
      Scanned isDelimiter keepEscapes column start reversed (c :: rest)
        (run start reversed :: ⟨String.singleton c, true, column⟩ :: tokens)
  /-- Any other character. -/
  | plain {column start : Nat} {reversed rest : List Char} {tokens : List Token} {c : Char}
      (hdelimiter : isDelimiter c = false) (hescape : c ≠ escape)
      (hgoes : (decide (c = comment) || isBreak c) = false)
      (later : Scanned isDelimiter keepEscapes (column + 1) start (c :: reversed) rest tokens) :
      Scanned isDelimiter keepEscapes column start reversed (c :: rest) tokens

/-- A derivation gives what the scan comes to. -/
theorem Scanned.scan_eq
    (h : Scanned isDelimiter keepEscapes column start reversed chars tokens) :
    scan isDelimiter keepEscapes column start reversed chars = .ok tokens := by
  induction h with
  | nil => rw [scan]
  | stop hescape hends => rw [scan_end hescape hends]
  | escaped hbreak _ ih => rw [scan_escaped hbreak, ih]
  | cut hdelimiter hescape hgoes _ ih =>
    rw [scan_delimiter hdelimiter hescape hgoes, ih]
    rfl
  | plain hdelimiter hescape hgoes _ ih => rw [scan_plain hdelimiter hescape hgoes, ih]

/-- A scan that comes to tokens has a derivation. -/
theorem scanned_of_scan
    (h : scan isDelimiter keepEscapes column start reversed chars = .ok tokens) :
    Scanned isDelimiter keepEscapes column start reversed chars tokens := by
  induction column, start, reversed, chars using scan.induct isDelimiter keepEscapes
    generalizing tokens with
  | case1 column start reversed =>
    rw [scan] at h
    cases h
    exact .nil
  | case2 column start reversed =>
    rw [scan_dangling (by simp)] at h
    contradiction
  | case3 column start reversed escaped rest hbreak =>
    rw [scan_dangling (by simpa using hbreak)] at h
    contradiction
  | @case4 column start reversed escaped rest hbreak kept ih =>
    have hbreak : isBreak escaped = false := by simpa using hbreak
    rw [scan_escaped hbreak] at h
    exact .escaped hbreak (ih h)
  | case5 column start reversed c rest hescape hends =>
    rw [scan_end hescape hends] at h
    cases h
    exact .stop hescape hends
  | case6 column start reversed c rest hescape hends hdelimiter ih =>
    have hgoes : (decide (c = comment) || isBreak c) = false := by simpa using hends
    rw [scan_delimiter hdelimiter hescape hgoes] at h
    obtain ⟨later, hlater, rfl⟩ := Outcome.map_eq_ok.mp h
    exact .cut hdelimiter hescape hgoes (ih hlater)
  | case7 column start reversed c rest hescape hends hdelimiter ih =>
    have hgoes : (decide (c = comment) || isBreak c) = false := by simpa using hends
    have hdelimiter : isDelimiter c = false := by simpa using hdelimiter
    rw [scan_plain hdelimiter hescape hgoes] at h
    exact .plain hdelimiter hescape hgoes (ih h)

end UnitConversion.Line

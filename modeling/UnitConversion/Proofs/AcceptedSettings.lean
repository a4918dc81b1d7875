import UnitConversion.Proofs.Outcomes
import UnitConversion.Proofs.PrintedNumerals
import UnitConversion.Proofs.YamlLeaves
import UnitConversion.Settings.File

/-!
# Settings that are accepted

Settings are accepted when every key means something and has a value that it allows. What is
accepted can be used: the style has its name, the precision is in range, and only a units file in a
home directory that is not known keeps the settings from being read.
-/

namespace UnitConversion

open Text

namespace OutputStyle

/-- A style is found by its full name. -/
theorem ofFullName?_eq_some_iff {name : String} {style : OutputStyle} :
    ofFullName? name = some style ↔ name = style.name := by
  constructor
  · intro h
    unfold ofFullName? at h
    have hname := List.find?_some h
    exact (beq_iff_eq.mp hname).symm
  · rintro rfl
    cases style <;> rfl

/-- A full name is a name of its style. -/
theorem ofName_of_ofFullName? {name : String} {style : OutputStyle}
    (h : ofFullName? (lower (trim name)) = some style) : ofName name = .ok style := by
  unfold ofName
  dsimp only
  rw [h]
  rfl

end OutputStyle

/-- A precision is one for the count that it stands for. -/
theorem Precision.ofInt_eq_ok_iff {digits : Int} {precision : Precision} :
    Precision.ofInt digits = .ok precision ↔ digits = precision.digits := by
  unfold Precision.ofInt
  obtain ⟨count, hvalid⟩ := precision
  split
  · rename_i hrange
    simp only [Except.ok.injEq, Precision.mk.injEq]
    omega
  · rename_i hrange
    simp only [reduceCtorEq, false_iff]
    rintro rfl
    exact hrange ⟨by omega, by omega⟩

namespace Settings

/-- The value is one that the key allows: none, or one of its kind, which is the full name of a style
for the style and in range for the precision. -/
def Key.Allows : Key → Datum → Prop
  | _, .null => True
  | .unitsFile, .text _ => True
  | .format, .text name => ∃ style : OutputStyle, lower (trim name) = style.name
  | .precision, .int digits => 1 ≤ digits ∧ digits ≤ maxPrecision
  | _, _ => False

namespace Given

/-- The value that is given for a key. -/
def value? : Given → Key → Option Datum
  | other _, _ => none
  | mapping _ value?, key => value? key.name

/-- The text that is given for a key. -/
def text? (given : Given) (key : Key) : Option String := (given.value? key).bind textOf?

/-- The integer that is given for a key. -/
def integer? (given : Given) (key : Key) : Option Int := (given.value? key).bind integerOf?

/-- The settings can be used: they are a mapping, all keys mean something, and each one has a value
that it allows, if it has one. -/
def IsUsable : Given → Prop
  | other _ => False
  | mapping keys value? => (∀ key ∈ keys, ∃ known : Key, key = .text known.name) ∧
      ∀ (key : Key) (value : Datum), value? key.name = some value → key.Allows value

end Given

variable {keys : List Datum} {value? : String → Option Datum} {key : Key} {given : Given}
  {accepted : Accepted}

/-- The keys that mean something are the names of keys. -/
theorem isKnown_iff {datum : Datum} :
    isKnown datum = true ↔ ∃ known : Key, datum = .text known.name := by
  unfold isKnown
  split
  · rename_i name
    rw [List.any_eq_true]
    constructor
    · rintro ⟨known, -, hname⟩
      exact ⟨known, congrArg Datum.text (beq_iff_eq.mp hname).symm⟩
    · rintro ⟨known, hname⟩
      exact ⟨known, by cases known <;> decide, beq_iff_eq.mpr (Datum.text.inj hname).symm⟩
  · rename_i hother
    refine iff_of_false Bool.false_ne_true ?_
    rintro ⟨known, rfl⟩
    exact hother _ rfl

/-- Keys are refused unless all of them mean something. -/
theorem checkKeys_eq_ok {done : Unit} :
    checkKeys keys = .ok done ↔ ∀ key ∈ keys, ∃ known : Key, key = .text known.name := by
  have hnone : (keys.filter fun key => !isKnown key) = [] ↔
      ∀ key ∈ keys, ∃ known : Key, key = .text known.name := by
    rw [List.filter_eq_nil_iff]
    refine forall_congr' fun key => imp_congr_right fun _ => ?_
    rw [← isKnown_iff]
    simp
  rw [← hnone]
  unfold checkKeys
  split
  · rename_i hempty
    exact iff_of_true rfl hempty
  · rename_i unknown hsome
    refine iff_of_false ?_ hsome
    intro h
    obtain ⟨shown, -, hthrow⟩ := Outcome.bind_eq_ok.mp h
    exact Outcome.throw_ne_ok hthrow

/-- The value that is there, unless it is null. -/
def present : Option Datum → Option Datum
  | some .null => none
  | found => found

/-- A value is taken when it is null or of the kind that its key takes. -/
theorem valueOf_eq_ok {found : Option Datum} :
    valueOf value? key = .ok found ↔ found = present (value? key.name) ∧
      ∀ value, value? key.name = some value → value = .null ∨ key.accepts value = true := by
  have htaken : ∀ (taken : Option Datum) (fits : Prop), fits →
      ((.ok taken : Except Refusal (Option Datum)) = .ok found ↔ found = taken ∧ fits) := by
    intro taken fits hfits
    rw [Except.ok.injEq, eq_comm]
    exact (and_iff_left hfits).symm
  unfold valueOf
  split
  · rename_i hnone
    rw [hnone]
    exact htaken none _ (by simp)
  · rename_i hnull
    rw [hnull]
    exact htaken none _ (by simp)
  · rename_i value hother hvalue
    have hpresent : present (some value) = some value := by
      cases value <;> first | rfl | contradiction
    rw [hvalue, hpresent]
    by_cases haccepts : key.accepts value = true
    · rw [if_pos haccepts]
      exact htaken (some value) _ (by simp [haccepts])
    · rw [if_neg haccepts]
      refine iff_of_false ?_ ?_
      · intro h
        obtain ⟨text, -, hthrow⟩ := Outcome.bind_eq_ok.mp h
        exact Outcome.throw_ne_ok hthrow
      · rintro ⟨-, hfits⟩
        exact (hfits value rfl).elim hother haccepts

/-- A name is read as a style when it is the full name of one. -/
theorem readStyle_eq_ok {name : String} {style : OutputStyle} :
    readStyle name = .ok style ↔ lower (trim name) = style.name := by
  rw [← OutputStyle.ofFullName?_eq_some_iff]
  unfold readStyle
  cases OutputStyle.ofFullName? (lower (trim name)) <;> simp

/-- An integer is read as a precision when it is in range. -/
theorem readPrecision_eq_ok {digits : Int} {precision : Precision} :
    readPrecision digits = .ok precision ↔ Precision.ofInt digits = .ok precision := by
  unfold readPrecision
  cases hprecision : Precision.ofInt digits with
  | ok found => simp
  | error failure =>
    refine iff_of_false ?_ (by simp)
    intro h
    obtain ⟨shown, -, hthrow⟩ := Outcome.bind_eq_ok.mp h
    exact Outcome.throw_ne_ok hthrow

section

variable {α β : Type} {read : α → Except Refusal β} {result : Option β}

/-- What is missing is not read. -/
theorem mapM_none_eq_ok : none.mapM read = .ok result ↔ result = none := by
  have hnone : (none : Option α).mapM read = .ok none := rfl
  rw [hnone, Except.ok.injEq, eq_comm]

/-- What is there is read when it can be. -/
theorem mapM_some_eq_ok {value : α} :
    (some value).mapM read = .ok result ↔ ∃ found, read value = .ok found ∧ result = some found := by
  have hsome : (some value).mapM read = read value >>= fun found => .ok (some found) := rfl
  rw [hsome, Outcome.bind_eq_ok]
  simp [eq_comm]

end

/-- A value that is allowed is null or of the kind that its key takes. -/
theorem Key.Allows.fits {value : Datum} (h : key.Allows value) :
    value = .null ∨ key.accepts value = true := by
  cases value with
  | null => exact .inl rfl
  | text name =>
    cases key with
    | unitsFile => exact .inr rfl
    | format => exact .inr rfl
    | precision => exact h.elim
  | int digits =>
    cases key with
    | unitsFile => exact h.elim
    | format => exact h.elim
    | precision => exact .inr rfl
  | bool | float | undefined | bytes | date | moment | list | pair | mapping | set | enclosing =>
    cases key <;> exact h.elim

/-- A value of the kind that its key takes is allowed, when a name for the style is the full name of
one and a count for the precision is in range. -/
theorem Key.allows_of_accepts {value : Datum} (h : key.accepts value = true)
    (hstyle : ∀ name, key = .format → value = .text name →
      ∃ style : OutputStyle, lower (trim name) = style.name)
    (hrange : ∀ digits, key = .precision → value = .int digits →
      1 ≤ digits ∧ digits ≤ maxPrecision) : key.Allows value := by
  cases key with
  | unitsFile => cases value <;> first | contradiction | trivial
  | format =>
    cases value with
    | text name => exact hstyle name rfl rfl
    | _ => contradiction
  | precision =>
    cases value with
    | int digits => exact hrange digits rfl rfl
    | _ => contradiction

/-- The text of a value is the value as a text. -/
theorem textOf?_eq_some_iff {value : Datum} {name : String} :
    textOf? value = some name ↔ value = .text name := by
  cases value <;> simp [textOf?]

/-- The integer of a value is the value as an integer. -/
theorem integerOf?_eq_some_iff {value : Datum} {digits : Int} :
    integerOf? value = some digits ↔ value = .int digits := by
  cases value <;> simp [integerOf?]

/-- Null is no text and no integer. -/
theorem bind_present (found : Option Datum) :
    (present found).bind textOf? = found.bind textOf? ∧
      (present found).bind integerOf? = found.bind integerOf? := by
  unfold present
  split <;> exact ⟨rfl, rfl⟩

/-- The settings that were accepted are those that were given. -/
structure Takes (given : Given) (accepted : Accepted) : Prop where
  /-- The units file is the text that is given. -/
  unitsFile : accepted.unitsFile = given.text? .unitsFile
  /-- The style is the one whose full name is given. -/
  style : ∀ name, given.text? .format = some name →
    ∃ style : OutputStyle, accepted.style = some style ∧ lower (trim name) = style.name
  /-- It is left open when no text is given. -/
  noStyle : given.text? .format = none → accepted.style = none
  /-- The precision is the one of the count that is given. -/
  precision : ∀ digits, given.integer? .precision = some digits →
    ∃ precision : Precision, accepted.precision = some precision ∧ digits = precision.digits
  /-- It is left open when no integer is given. -/
  noPrecision : given.integer? .precision = none → accepted.precision = none

/-- The steps of checking a mapping. -/
theorem validate_mapping_eq_ok :
    validate (.mapping keys value?) = .ok accepted ↔
      (∀ key ∈ keys, ∃ known : Key, key = .text known.name) ∧
      (∀ (key : Key) (value : Datum), value? key.name = some value →
        value = .null ∨ key.accepts value = true) ∧
      accepted.unitsFile = (value? Key.unitsFile.name).bind textOf? ∧
      ((value? Key.format.name).bind textOf?).mapM readStyle = .ok accepted.style ∧
      ((value? Key.precision.name).bind integerOf?).mapM readPrecision =
        .ok accepted.precision := by
  unfold validate
  constructor
  · intro h
    obtain ⟨done, hkeys, hunits⟩ := Outcome.bind_eq_ok.mp h
    obtain ⟨unitsFile, hunitsFile, hformats⟩ := Outcome.bind_eq_ok.mp hunits
    obtain ⟨format, hformat, hprecisions⟩ := Outcome.bind_eq_ok.mp hformats
    obtain ⟨digits, hdigits, hstyles⟩ := Outcome.bind_eq_ok.mp hprecisions
    obtain ⟨style, hstyle, hcounts⟩ := Outcome.bind_eq_ok.mp hstyles
    obtain ⟨precision, hprecision, hpure⟩ := Outcome.bind_eq_ok.mp hcounts
    obtain ⟨rfl, hfitsUnits⟩ := valueOf_eq_ok.mp hunitsFile
    obtain ⟨rfl, hfitsFormat⟩ := valueOf_eq_ok.mp hformat
    obtain ⟨rfl, hfitsPrecision⟩ := valueOf_eq_ok.mp hdigits
    rw [(bind_present _).1] at hstyle
    rw [(bind_present _).2] at hprecision
    rw [← Outcome.pure_eq_ok.mp hpure]
    refine ⟨checkKeys_eq_ok.mp hkeys, ?_, (bind_present _).1, hstyle, hprecision⟩
    intro key value hvalue
    cases key with
    | unitsFile => exact hfitsUnits value hvalue
    | format => exact hfitsFormat value hvalue
    | precision => exact hfitsPrecision value hvalue
  · rintro ⟨hkeys, hfits, hunits, hstyle, hprecision⟩
    obtain ⟨unitsFile, style, precision⟩ := accepted
    dsimp only at hunits hstyle hprecision
    have hvalue : ∀ key, valueOf value? key = .ok (present (value? key.name)) := fun key =>
      valueOf_eq_ok.mpr ⟨rfl, hfits key⟩
    rw [← (bind_present _).1] at hstyle hunits
    rw [← (bind_present _).2] at hprecision
    refine Outcome.bind_eq_ok.mpr ⟨(), checkKeys_eq_ok.mpr hkeys, ?_⟩
    refine Outcome.bind_eq_ok.mpr ⟨_, hvalue .unitsFile, ?_⟩
    refine Outcome.bind_eq_ok.mpr ⟨_, hvalue .format, ?_⟩
    refine Outcome.bind_eq_ok.mpr ⟨_, hvalue .precision, ?_⟩
    refine Outcome.bind_eq_ok.mpr ⟨_, hstyle, ?_⟩
    refine Outcome.bind_eq_ok.mpr ⟨_, hprecision, ?_⟩
    rw [hunits]
    rfl

/-- What is accepted are the settings that were given. -/
theorem takes_of_validate (h : validate given = .ok accepted) : Takes given accepted := by
  cases given with
  | other kind => exact absurd h Outcome.throw_ne_ok
  | mapping keys value? =>
    obtain ⟨-, -, hunits, hstyle, hprecision⟩ := validate_mapping_eq_ok.mp h
    constructor
    · exact hunits
    · intro name hname
      change (value? Key.format.name).bind textOf? = some name at hname
      rw [hname] at hstyle
      obtain ⟨style, hread, hstyle⟩ := mapM_some_eq_ok.mp hstyle
      exact ⟨style, hstyle, readStyle_eq_ok.mp hread⟩
    · intro hnone
      change (value? Key.format.name).bind textOf? = none at hnone
      rw [hnone] at hstyle
      exact mapM_none_eq_ok.mp hstyle
    · intro digits hdigits
      change (value? Key.precision.name).bind integerOf? = some digits at hdigits
      rw [hdigits] at hprecision
      obtain ⟨precision, hread, hprecision⟩ := mapM_some_eq_ok.mp hprecision
      exact ⟨precision, hprecision, Precision.ofInt_eq_ok_iff.mp (readPrecision_eq_ok.mp hread)⟩
    · intro hnone
      change (value? Key.precision.name).bind integerOf? = none at hnone
      rw [hnone] at hprecision
      exact mapM_none_eq_ok.mp hprecision

/-- A style that is allowed is read. -/
theorem exists_readStyle_of_allows
    (h : ∀ value, value? Key.format.name = some value → Key.format.Allows value) :
    ∃ style, ((value? Key.format.name).bind textOf?).mapM readStyle = .ok style := by
  cases hname : (value? Key.format.name).bind textOf? with
  | none => exact ⟨none, rfl⟩
  | some name =>
    obtain ⟨value, hvalue, htext⟩ := Option.bind_eq_some_iff.mp hname
    rw [textOf?_eq_some_iff.mp htext] at hvalue
    obtain ⟨style, hstyle⟩ := h (.text name) hvalue
    exact ⟨some style, mapM_some_eq_ok.mpr ⟨style, readStyle_eq_ok.mpr hstyle, rfl⟩⟩

/-- A precision that is allowed is read. -/
theorem exists_readPrecision_of_allows
    (h : ∀ value, value? Key.precision.name = some value → Key.precision.Allows value) :
    ∃ precision,
      ((value? Key.precision.name).bind integerOf?).mapM readPrecision = .ok precision := by
  cases hdigits : (value? Key.precision.name).bind integerOf? with
  | none => exact ⟨none, rfl⟩
  | some digits =>
    obtain ⟨value, hvalue, hinteger⟩ := Option.bind_eq_some_iff.mp hdigits
    rw [integerOf?_eq_some_iff.mp hinteger] at hvalue
    obtain ⟨hleast, hmost⟩ := h (.int digits) hvalue
    have hread : Precision.ofInt digits = .ok ⟨digits.toNat, by omega⟩ := dif_pos ⟨hleast, hmost⟩
    exact ⟨_, mapM_some_eq_ok.mpr ⟨_, readPrecision_eq_ok.mpr hread, rfl⟩⟩

/-- Settings are accepted exactly when they can be used. -/
theorem exists_validate_eq_ok_iff (given : Given) :
    (∃ accepted, validate given = .ok accepted) ↔ given.IsUsable := by
  cases given with
  | other kind => exact iff_of_false (fun ⟨_, h⟩ => Outcome.throw_ne_ok h) id
  | mapping keys value? =>
    constructor
    · rintro ⟨accepted, h⟩
      have takes := takes_of_validate h
      obtain ⟨hkeys, hfits, -⟩ := validate_mapping_eq_ok.mp h
      refine ⟨hkeys, fun key value hvalue => ?_⟩
      rcases hfits key value hvalue with rfl | haccepts
      · cases key <;> trivial
      · refine Key.allows_of_accepts haccepts ?_ ?_
        · rintro name rfl rfl
          have hname : (Given.mapping keys value?).text? .format = some name := by
            simp [Given.text?, Given.value?, hvalue, textOf?]
          obtain ⟨style, -, hstyle⟩ := takes.style name hname
          exact ⟨style, hstyle⟩
        · rintro digits rfl rfl
          have hdigits : (Given.mapping keys value?).integer? .precision = some digits := by
            simp [Given.integer?, Given.value?, hvalue, integerOf?]
          obtain ⟨precision, -, hprecision⟩ := takes.precision digits hdigits
          have hvalid := precision.valid
          omega
    · rintro ⟨hkeys, hallows⟩
      obtain ⟨style, hstyle⟩ := exists_readStyle_of_allows (hallows .format)
      obtain ⟨precision, hprecision⟩ := exists_readPrecision_of_allows (hallows .precision)
      exact ⟨⟨_, style, precision⟩, validate_mapping_eq_ok.mpr
        ⟨hkeys, fun key value hvalue => (hallows key value hvalue).fits, rfl, hstyle, hprecision⟩⟩

/-- The value that a YAML text stands for can be used when it is a mapping of the keys to values that
they allow. -/
theorem isUsable_ofDatum_iff (datum : Datum) :
    (Given.ofDatum datum).IsUsable ↔ ∃ entries, datum = .mapping entries ∧
      (∀ entry ∈ entries, ∃ key : Key, entry.1 = .text key.name) ∧
      ∀ (key : Key) (value : Datum), Datum.field? entries key.name = some value →
        key.Allows value := by
  cases datum with
  | mapping entries =>
    have hkeys : (∀ key ∈ entries.map (·.1), ∃ known : Key, key = .text known.name) ↔
        ∀ entry ∈ entries, ∃ key : Key, entry.1 = .text key.name := by
      simp
    change (_ ∧ _) ↔ _
    rw [hkeys]
    constructor
    · rintro ⟨hknown, hallows⟩
      exact ⟨entries, rfl, hknown, hallows⟩
    · rintro ⟨others, hsame, hknown, hallows⟩
      cases hsame
      exact ⟨hknown, hallows⟩
  | null | bool | int | float | undefined | text | bytes | date | moment | list | pair | set
      | enclosing =>
    refine iff_of_false id ?_
    rintro ⟨entries, hsame, -⟩
    contradiction

/-- Only values without parts are allowed, so it does not matter what parts a value has. -/
theorem allows_datum_iff (key : Key) (shape : Yaml.Shape) (part other : Yaml.NodeId → Datum) :
    key.Allows (shape.datum part) ↔ key.Allows (shape.datum other) := by
  cases shape with
  | leaf datum => exact Iff.rfl
  | list | pairs | mapping | set => cases key <;> exact Iff.rfl

/-- A value in the mapping at the root is allowed when it is by itself. -/
theorem allows_datumInside_iff {document : Yaml.Document}
    {entries : List (Datum × Yaml.NodeId)}
    (h : document.shape document.root = .mapping entries) (key : Key) (id : Yaml.NodeId) :
    key.Allows (document.datumInside document.shapes.size [document.root] id) ↔
      key.Allows (document.datum id) := by
  have hsize : document.shapes.size ≠ 0 := by
    intro hzero
    have hnone : document.shapes[document.root]? = none :=
      Array.getElem?_eq_none (by omega)
    unfold Yaml.Document.shape at h
    rw [hnone] at h
    contradiction
  obtain ⟨fuel, hfuel⟩ := Nat.exists_eq_succ_of_ne_zero hsize
  have halone : document.datum id =
      (document.shape id).datum (document.datumInside document.shapes.size [id]) := rfl
  rw [halone, hfuel, Yaml.Document.datumInside]
  by_cases hroot : id = document.root
  · -- The mapping itself is among its values: it is only hinted at, and not allowed either.
    subst hroot
    rw [if_pos (by simp), h]
    cases key <;> exact Iff.rfl
  · rw [if_neg (by simpa using hroot)]
    exact allows_datum_iff key _ _ _

/-- The value of a key in a mapping whose values are worked on. -/
theorem field?_map {α β : Type} (entries : List (Datum × α)) (part : α → β) (name : String) :
    Datum.field? (entries.map fun (key, value) => (key, part value)) name =
      (Datum.field? entries name).map part := by
  unfold Datum.field?
  rw [List.find?_map, Option.map_map, Option.map_map]
  rfl

/-- The settings in a document can be used when there are none, or when their value can be. -/
theorem isUsable_ofDocument_iff {text : String} {document : Yaml.Document}
    (hdocument : Yaml.Document.ofText text = .ok (some document)) :
    (Given.ofDocument document).IsUsable ↔ document.datum document.root = .null ∨
      (Given.ofDatum (document.datum document.root)).IsUsable := by
  have hroot : document.datum document.root = (document.shape document.root).datum
      (document.datumInside document.shapes.size [document.root]) := rfl
  unfold Given.ofDocument
  rw [hroot]
  cases hshape : document.shape document.root with
  | leaf datum =>
    have hleaf := Yaml.shape_ne_leaf_mapping hdocument document.root
    rw [hshape] at hleaf
    cases datum with
    | null =>
      have hempty : Given.empty.IsUsable := ⟨by simp, by simp⟩
      exact iff_of_true hempty (.inl rfl)
    | mapping entries => exact absurd rfl (hleaf entries)
    | bool | int | float | undefined | text | bytes | date | moment | list | pair | set
        | enclosing => exact iff_of_false id (by rintro (h | h) <;> contradiction)
  | mapping entries =>
    have hkeys : ∀ part : Yaml.NodeId → Datum,
        (entries.map fun entry => (entry.1, part entry.2)).map (·.1) = entries.map (·.1) := by
      intro part
      rw [List.map_map]
      rfl
    have hother : (Yaml.Shape.mapping entries).datum
        (document.datumInside document.shapes.size [document.root]) ≠ .null := by
      simp [Yaml.Shape.datum]
    rw [or_iff_right hother]
    change (_ ∧ _) ↔ (_ ∧ _)
    rw [hkeys]
    refine and_congr_right fun _ => forall_congr' fun key => ?_
    have hallows := fun id => allows_datumInside_iff hshape key id
    rw [field?_map]
    simp only [Option.map_eq_some_iff, forall_exists_index, and_imp, forall_apply_eq_imp_iff₂]
    exact forall_congr' fun id => imp_congr_right fun _ => (hallows id).symm
  | list | pairs | set => exact iff_of_false id (by rintro (h | h) <;> contradiction)

/-- The units file that is named is in no home directory, or in one that is known. -/
def Given.HomeKnown (environment : Environment) (given : Given) : Prop :=
  ∀ name, given.text? .unitsFile = some name → name = "" ∨
    ∃ path, (Path.ofString name).expandHome environment = some path

/-- The settings are those that a file gives, and they can be used. -/
structure ReadsAs (environment : Environment) (file : Path) (given : Given) (settings : Settings) :
    Prop where
  /-- The style is the one that the given name is a name of. -/
  style : ∀ name, given.text? .format = some name → OutputStyle.ofName name = .ok settings.style
  /-- Without a name it is the simple one. -/
  noStyle : given.text? .format = none → settings.style = .simple
  /-- The precision is the given count. -/
  precision : ∀ digits, given.integer? .precision = some digits →
    Precision.ofInt digits = .ok settings.precision
  /-- Without a count there are ten digits. -/
  noPrecision : given.integer? .precision = none → settings.precision.digits = 10
  /-- The units file is meant from the directory of the file, behind a home directory. -/
  unitsFile : ∀ path, settings.unitsFile = some path ↔ ∃ name expanded,
    given.text? .unitsFile = some name ∧ name ≠ "" ∧
      (Path.ofString name).expandHome environment = some expanded ∧
        path = file.parent.under expanded
  /-- The file is known that they are from. -/
  source : settings.source = some file
  /-- A session takes the precision. -/
  session : Precision.ofInt settings.precision.digits = .ok settings.precision
  /-- Every finite number is written as a numeral with that precision. -/
  numerals : ∀ value : Float, value.isFinite = true →
    Numeric.IsNumeral (formatNumber settings.precision value)

variable {environment : Environment} {tree : FileTree} {file : Path}

/-- A units file that is named is found unless it is in a home directory that is not known. -/
theorem locateUnits_of_ne {name : String} (h : name ≠ "") :
    locateUnits environment file name =
      match (Path.ofString name).expandHome environment with
      | some expanded => .ok (some (file.parent.under expanded))
      | none => .error (.brokenOff .homeUnknown) := by
  have hname : name.isEmpty = false := by simpa using h
  unfold locateUnits expand
  rw [hname]
  cases (Path.ofString name).expandHome environment <;> rfl

/-- What is accepted is read when the units file is found. -/
theorem fromFile_eq (hread : readGiven tree file = .ok given)
    (haccepted : validate given = .ok accepted) :
    fromFile environment tree file =
      (locateUnits environment file (accepted.unitsFile.getD "")).map fun unitsFile =>
        ⟨unitsFile, accepted.style.getD .simple, accepted.precision.getD .standard, some file⟩ := by
  have hvalidate : (validate given).mapError (StartFailure.ofRefusal file) = .ok accepted := by
    rw [haccepted]
    rfl
  unfold fromFile
  rw [hread]
  change ((validate given).mapError (StartFailure.ofRefusal file) >>= _) = _
  rw [hvalidate]
  change (locateUnits environment file (accepted.unitsFile.getD "") >>= _) = _
  cases locateUnits environment file (accepted.unitsFile.getD "") <;> rfl

/-- Settings that were accepted can be used as soon as their units file is found. -/
theorem Takes.readsAs (takes : Takes given accepted) {unitsFile : Option Path}
    (hunits : locateUnits environment file (accepted.unitsFile.getD "") = .ok unitsFile) :
    ReadsAs environment file given
      ⟨unitsFile, accepted.style.getD .simple, accepted.precision.getD .standard, some file⟩ where
  style := by
    intro name hname
    obtain ⟨style, hstyle, hfull⟩ := takes.style name hname
    rw [hstyle]
    exact OutputStyle.ofName_of_ofFullName? (OutputStyle.ofFullName?_eq_some_iff.mpr hfull)
  noStyle := by
    intro hnone
    rw [takes.noStyle hnone]
    rfl
  precision := by
    intro digits hdigits
    obtain ⟨precision, hprecision, hsame⟩ := takes.precision digits hdigits
    rw [hprecision]
    exact Precision.ofInt_eq_ok_iff.mpr hsame
  noPrecision := by
    intro hnone
    rw [takes.noPrecision hnone]
    rfl
  unitsFile := by
    intro path
    rw [takes.unitsFile] at hunits
    cases hname : given.text? .unitsFile with
    | none =>
      rw [hname] at hunits
      cases hunits
      simp
    | some name =>
      rw [hname, Option.getD_some] at hunits
      by_cases hempty : name = ""
      · subst hempty
        cases hunits
        simp
      · rw [locateUnits_of_ne hempty] at hunits
        cases hexpanded : (Path.ofString name).expandHome environment with
        | none =>
          rw [hexpanded] at hunits
          contradiction
        | some expanded =>
          rw [hexpanded] at hunits
          cases hunits
          simp [hempty, hexpanded, eq_comm]
  source := rfl
  session := Precision.ofInt_eq_ok_iff.mpr rfl
  numerals := fun _ finite => isNumeral_formatNumber _ finite

/-- Settings that are accepted are read when no home directory is missing, and break the reading off
otherwise. -/
theorem fromFile_of_validate (hread : readGiven tree file = .ok given)
    (haccepted : validate given = .ok accepted) :
    (given.HomeKnown environment → ∃ settings, fromFile environment tree file = .ok settings ∧
      ReadsAs environment file given settings) ∧
    (¬given.HomeKnown environment →
      fromFile environment tree file = .error (.brokenOff .homeUnknown)) := by
  have takes := takes_of_validate haccepted
  rw [fromFile_eq hread haccepted]
  constructor
  · intro hhome
    have hunits : ∃ unitsFile,
        locateUnits environment file (accepted.unitsFile.getD "") = .ok unitsFile := by
      rw [takes.unitsFile]
      cases hname : given.text? .unitsFile with
      | none => exact ⟨none, rfl⟩
      | some name =>
        by_cases hempty : name = ""
        · subst hempty
          exact ⟨none, rfl⟩
        · obtain ⟨expanded, hexpanded⟩ := (hhome name hname).resolve_left hempty
          refine ⟨some (file.parent.under expanded), ?_⟩
          rw [Option.getD_some, locateUnits_of_ne hempty, hexpanded]
    obtain ⟨unitsFile, hunits⟩ := hunits
    rw [hunits]
    exact ⟨_, rfl, takes.readsAs hunits⟩
  · intro hhomeless
    simp only [Given.HomeKnown, not_forall, not_or, not_exists] at hhomeless
    obtain ⟨name, hname, hempty, hunknown⟩ := hhomeless
    have hnone : (Path.ofString name).expandHome environment = none :=
      Option.eq_none_iff_forall_ne_some.mpr hunknown
    rw [takes.unitsFile, hname, Option.getD_some, locateUnits_of_ne hempty, hnone]
    rfl

/-- Settings are accepted exactly when they are a mapping in which every key means something and has
no value or one that it allows, whether they are given as a value or in a document. What is accepted
in a file is read: the style is the one of the name that is given, the precision the count that is
given, and numbers are written with it. Only a units file in a home directory that is not known
breaks the reading off. -/
theorem accepted_settings_are_read (environment : Environment) (tree : FileTree) (file : Path)
    (given : Given) (datum : Datum) :
    ((∃ accepted, validate given = .ok accepted) ↔ given.IsUsable) ∧
    ((∃ accepted, validate (.ofDatum datum) = .ok accepted) ↔
      ∃ entries, datum = .mapping entries ∧
        (∀ entry ∈ entries, ∃ key : Key, entry.1 = .text key.name) ∧
        ∀ (key : Key) (value : Datum), Datum.field? entries key.name = some value →
          key.Allows value) ∧
    (∀ text document, Yaml.Document.ofText text = .ok (some document) →
      ((∃ accepted, validate (.ofDocument document) = .ok accepted) ↔
        document.datum document.root = .null ∨
          ∃ accepted, validate (.ofDatum (document.datum document.root)) = .ok accepted)) ∧
    (∀ accepted, readGiven tree file = .ok given → validate given = .ok accepted →
      (given.HomeKnown environment → ∃ settings, fromFile environment tree file = .ok settings ∧
        ReadsAs environment file given settings) ∧
      (¬given.HomeKnown environment →
        fromFile environment tree file = .error (.brokenOff .homeUnknown))) := by
  refine ⟨exists_validate_eq_ok_iff given, ?_, ?_, ?_⟩
  · rw [exists_validate_eq_ok_iff]
    exact isUsable_ofDatum_iff datum
  · intro text document hdocument
    rw [exists_validate_eq_ok_iff, exists_validate_eq_ok_iff]
    exact isUsable_ofDocument_iff hdocument
  · intro accepted hread haccepted
    exact fromFile_of_validate hread haccepted

/-- Settings that are accepted, with the verbose style, are read when the home directory of their
units file is known, and break the reading off when it is not. -/
theorem accepted_and_not_read_without_home :
    let tree : FileTree :=
      ⟨[(["c.yaml"], .file "units_file: ~nouser/u.cfg\nformat: verbose\n".toUTF8.toList)]⟩
    let file := Path.ofString "c.yaml"
    let accepted := readGiven tree file >>= fun given =>
      (validate given).mapError (StartFailure.ofRefusal file)
    accepted.map Accepted.style = .ok (some .verbose) ∧
      (fromFile ⟨[], [("nouser", "/home/nouser")]⟩ tree file).map Settings.style = .ok .verbose ∧
      (fromFile ⟨[], []⟩ tree file).map Settings.style = .error (.brokenOff .homeUnknown) := by
  decide +kernel

end Settings

end UnitConversion

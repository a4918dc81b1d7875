import UnitConversion.Proofs.QuietFiles

/-!
# What stops a load

A field accepts a text or refuses it with a fault, and a refusal becomes a warning. The exception is
an exponent of prefixes whose integer has more digits than may be read: it stops the load. Which
integer that is can be told from the lines alone, and a file without one is always loaded.
-/

namespace UnitConversion.UnitsFile

open Text

/-- The failure of a line that would set the exponent of prefixes to an integer with more digits
than the limit allows. -/
def overlongOn? (limit : DigitLimit) (line : String) : Option TooManyDigits :=
  match limit, Line.tokenize isDelimiter false line with
  | some most, .ok (key :: sign :: rest) =>
    match valuesOf rest with
    | [text] =>
      let count := (splitSign text.toList).2.length
      if sign.text = "=" ∧ Field.ofKey? (keyOf key.text) = some .dimensions ∧
          (∀ token ∈ rest, token.isDelimiter = true → token.text = ",") ∧
          isInteger text.toList = true ∧ most < count then
        some ⟨most, count⟩
      else none
    | _ => none
  | _, _ => none

/-- The failure of the first overlong line among those before the exponent of prefixes is set. -/
def stopIn? (limit : DigitLimit) (lines : List String) : Option TooManyDigits :=
  (lines.takeWhile fun line => (settingOn? limit .dimensions line).isNone).findSome?
    (overlongOn? limit)

/-- The failure at which lines stop that stand below what is open. -/
def Declaration.stop? (limit : DigitLimit) (declaration : Declaration) (lines : List String) :
    Option TooManyDigits :=
  if declaration.sets .dimensions then none else stopIn? limit lines

/-- The failure at which the lines of a group stop. A group whose header names no unit is passed
over. -/
def Group.stop? (limit : DigitLimit) (group : Group) : Option TooManyDigits :=
  (headerName? group.header).bind fun _ => stopIn? limit group.body

/-- The failure at which a file stops, if there is one. -/
def firstStop? (limit : DigitLimit) (lines : List String) : Option TooManyDigits :=
  (cut lines).2.findSome? (Group.stop? limit)

variable {limit : DigitLimit} {line key : String} {values : List String} {lines : List String}
  {failure : TooManyDigits}

/-- The tokens of a line tell the failure of its integer. -/
theorem overlongOn?_eq_some_iff : overlongOn? limit line = some failure ↔
    ∃ key values, Entry.ofLine line = .assignment key values ∧
      Field.ofKey? key = some .dimensions ∧
      Field.dimensions.read limit key values = .overlong failure := by
  simp only [Field.read_eq_overlong_iff, intOfDigits_eq_error_iff, true_and]
  constructor
  · intro h
    unfold overlongOn? at h
    split at h
    · rename_i most first sign rest hscan
      split at h
      · rename_i text hvalues
        dsimp only at h
        split at h
        · rename_i hshape
          obtain ⟨hsign, hkey, hcommas, hinteger, hlong⟩ := hshape
          have hnonempty : keyOf first.text ≠ "" := by
            intro hempty
            rw [hempty, Entry.ofKey?_empty] at hkey
            contradiction
          have hentry := ofLine_eq_assignment_iff.mpr
            ⟨first, sign, rest, hscan, hsign, hcommas, rfl, hnonempty, rfl⟩
          exact ⟨_, _, hentry, hkey, text, hvalues, hinteger, most, rfl, hlong,
            (Option.some.inj h).symm⟩
        · contradiction
      · contradiction
    · contradiction
  · rintro ⟨key, values, hentry, hkey, text, hvalues, hinteger, most, rfl, hlong, rfl⟩
    obtain ⟨first, sign, rest, hscan, hsign, hcommas, rfl, -, rfl⟩ :=
      ofLine_eq_assignment_iff.mp hentry
    unfold overlongOn?
    simp only [hscan, hvalues]
    rw [if_pos ⟨hsign, hkey, hcommas, hinteger, hlong⟩]

/-- The failure of an assignment is that of its field. -/
theorem overlongOn?_of_assignment (hentry : Entry.ofLine line = .assignment key values) :
    overlongOn? limit line = some failure ↔ Field.ofKey? key = some .dimensions ∧
      Field.dimensions.read limit key values = .overlong failure := by
  rw [overlongOn?_eq_some_iff, hentry]
  simp

/-- A line that is no assignment has no failure. -/
theorem overlongOn?_of_no_assignment
    (h : ∀ key values, Entry.ofLine line ≠ .assignment key values) :
    overlongOn? limit line = none := by
  rw [Option.eq_none_iff_forall_ne_some]
  intro failure hfailure
  obtain ⟨key, values, hentry, -⟩ := overlongOn?_eq_some_iff.mp hfailure
  exact h key values hentry

/-- A line that sets the exponent of prefixes ends the search. -/
theorem stopIn?_cons_of_some {setting : Setting}
    (h : settingOn? limit .dimensions line = some setting) (rest : List String) :
    stopIn? limit (line :: rest) = none := by
  simp [stopIn?, h]

/-- A line that does not set the exponent of prefixes may be overlong; else the search goes on. -/
theorem stopIn?_cons_of_none (h : settingOn? limit .dimensions line = none) (rest : List String) :
    stopIn? limit (line :: rest) = (overlongOn? limit line).or (stopIn? limit rest) := by
  simp only [stopIn?, h, List.takeWhile_cons, Option.isNone_none, if_true, List.findSome?_cons]
  cases overlongOn? limit line <;> rfl

/-- A line that is no assignment stops nothing. -/
theorem Declaration.stop?_cons_of_no_assignment
    (h : ∀ key values, Entry.ofLine line ≠ .assignment key values) (declaration : Declaration)
    (rest : List String) :
    declaration.stop? limit (line :: rest) = declaration.stop? limit rest := by
  have hsetting : settingOn? limit .dimensions line = none := by
    rw [← setting?_ofLine]
    cases hentry : Entry.ofLine line with
    | assignment key values => exact absurd hentry (h key values)
    | blank | faulty | header | brokenHeader => rfl
  unfold stop?
  rw [stopIn?_cons_of_none hsetting, overlongOn?_of_no_assignment h, Option.none_or]

/-- A setting that is added is one more field that is set. -/
theorem Declaration.sets_append (declaration : Declaration) (setting : Setting) (field : Field) :
    ({ declaration with settings := declaration.settings ++ [setting] } : Declaration).sets field =
      (declaration.sets field || setting.field == field) := by
  simp [sets]

/-- An assignment to another field stops nothing, and the exponent of prefixes is as set as it
was. -/
theorem Declaration.assign_of_other_field (hkey : Field.ofKey? key ≠ some .dimensions)
    (declaration : Declaration) :
    ∃ after, declaration.assign limit key values = .ok after ∧
      after.sets .dimensions = declaration.sets .dimensions := by
  unfold assign
  cases hfield : Field.ofKey? key with
  | none => exact ⟨declaration, rfl, rfl⟩
  | some field =>
    rw [hfield] at hkey
    have hother : field ≠ .dimensions := by
      rintro rfl
      exact hkey rfl
    dsimp only
    cases hset : declaration.sets field with
    | true => exact ⟨declaration, rfl, rfl⟩
    | false =>
      rw [if_neg Bool.false_ne_true]
      cases hread : field.read limit key values with
      | refused fault => exact ⟨declaration, rfl, rfl⟩
      | overlong failure => exact absurd (Field.read_eq_overlong_iff.mp hread).1 hother
      | accepted setting =>
        have hsetting : (setting.field == Field.dimensions) = false := by
          rw [(Field.read_sound hread).1]
          simpa using hother
        exact ⟨_, rfl, by rw [sets_append, hsetting, Bool.or_false]⟩

/-- An assignment to a declaration stops there, or the lines below it stop where they stop for what
comes of the declaration. -/
theorem Declaration.stop?_cons_of_assignment
    (hentry : Entry.ofLine line = .assignment key values) (declaration : Declaration)
    (rest : List String) :
    declaration.stop? limit (line :: rest) =
      match declaration.assign limit key values with
      | .error failure => some failure
      | .ok after => after.stop? limit rest := by
  have hsetting := setting?_ofLine limit .dimensions line
  have hoverlong := @overlongOn?_of_assignment limit line key values
  rw [hentry] at hsetting
  simp only [Entry.setting?] at hsetting
  by_cases hkey : Field.ofKey? key = some .dimensions
  · rw [if_pos hkey] at hsetting
    by_cases hset : declaration.sets .dimensions = true
    · simp [stop?, assign, hkey, hset]
    · rw [Bool.not_eq_true] at hset
      cases hread : Field.dimensions.read limit key values with
      | accepted setting =>
        rw [hread] at hsetting
        have hfield : (setting.field == Field.dimensions) = true := by
          rw [(Field.read_sound hread).1]
          rfl
        simp [stop?, assign, hkey, hset, hread, stopIn?_cons_of_some hsetting.symm, sets_append,
          hfield]
      | refused fault =>
        rw [hread] at hsetting
        have hnone : overlongOn? limit line = none := by
          rw [Option.eq_none_iff_forall_ne_some]
          intro failure hfailure
          have hlong := ((hoverlong hentry).mp hfailure).2
          rw [hread] at hlong
          contradiction
        simp [stop?, assign, hkey, hset, hread, stopIn?_cons_of_none hsetting.symm, hnone]
      | overlong other =>
        rw [hread] at hsetting
        have hsome : overlongOn? limit line = some other := (hoverlong hentry).mpr ⟨hkey, hread⟩
        simp [stop?, assign, hkey, hset, hread, stopIn?_cons_of_none hsetting.symm, hsome]
  · rw [if_neg hkey] at hsetting
    have hnone : overlongOn? limit line = none := by
      rw [Option.eq_none_iff_forall_ne_some]
      intro failure hfailure
      exact hkey ((hoverlong hentry).mp hfailure).1
    obtain ⟨after, hafter, hsets⟩ := @assign_of_other_field limit key values hkey declaration
    simp only [stop?, hafter, hsets, stopIn?_cons_of_none hsetting.symm, hnone, Option.none_or]

/-- What starts at a header line stops nothing or stops in its lines, and then the groups below it
stop. -/
theorem findSome?_stop?_cons {header : String} {current : Option Declaration}
    (hnone : headerName? header = none → current = none)
    (hsome : ∀ name, headerName? header = some name → current = some ⟨name, 0, []⟩)
    (lines : List String) (groups : List Group) :
    (⟨header, lines⟩ :: groups).findSome? (Group.stop? limit) =
      (current.bind fun declaration => declaration.stop? limit lines).or
        (groups.findSome? (Group.stop? limit)) := by
  rw [List.findSome?_cons]
  cases hname : headerName? header with
  | none => simp [Group.stop?, hname, hnone hname]
  | some name =>
    have hstop : (Declaration.mk name 0 []).stop? limit lines = stopIn? limit lines := by
      simp [Declaration.stop?, Declaration.sets]
    rw [hsome name hname, Option.bind_some, hstop]
    simp only [Group.stop?, hname, Option.bind_some]
    cases stopIn? limit lines <;> rfl

/-- The lines stop below what is open, or in one of the groups below. -/
theorem declared_eq_error_iff {current : Option Declaration} :
    declared limit current lines = .error failure ↔
      ((current.bind fun declaration => declaration.stop? limit (cut lines).1).or
        ((cut lines).2.findSome? (Group.stop? limit))) = some failure := by
  have hmap : ∀ {closed : List MeasureUnit} {later : Except TooManyDigits (List MeasureUnit)},
      later.map (closed ++ ·) = .error failure ↔ later = .error failure := by
    intro closed later
    cases later <;> simp [Except.map]
  have hclosed : ∀ current : Option Declaration,
      (current.bind fun declaration => declaration.stop? limit []) = none := by
    intro current
    cases current <;> simp [Declaration.stop?, stopIn?]
  induction lines generalizing current with
  | nil => simp [declared, cut, hclosed]
  | cons line rest ih =>
    have hcloses := closes_ofLine line
    have hname := name?_ofLine line
    unfold declared
    cases hentry : Entry.ofLine line with
    | blank | faulty =>
      have hother : ∀ key values, Entry.ofLine line ≠ .assignment key values := by simp [hentry]
      rw [hentry] at hcloses
      rw [cut_cons_of_not_opensGroup hcloses.symm]
      simp only [Declaration.stop?_cons_of_no_assignment hother]
      exact ih
    | brokenHeader problem =>
      rw [hentry] at hcloses hname
      have hheader : headerName? line = none := hname.symm
      have hgroups := @findSome?_stop?_cons limit line none (by simp) (by simp [hheader])
      rw [cut_cons_of_opensGroup hcloses.symm, hclosed, Option.none_or, hgroups]
      exact hmap.trans ih
    | header name =>
      rw [hentry] at hcloses hname
      have hheader : headerName? line = some name := hname.symm
      have hgroups := @findSome?_stop?_cons limit line (some ⟨name, 0, []⟩) (by simp [hheader])
        (by simp [hheader])
      rw [cut_cons_of_opensGroup hcloses.symm, hclosed, Option.none_or, hgroups]
      exact hmap.trans ih
    | assignment key values =>
      rw [hentry] at hcloses
      rw [cut_cons_of_not_opensGroup hcloses.symm]
      cases current with
      | none => exact ih
      | some declaration =>
        simp only [Option.bind_some, declaration.stop?_cons_of_assignment hentry,
          Declaration.assignOpen]
        cases hassign : declaration.assign limit key values with
        | error other => simp [Except.map, bind, Except.bind]
        | ok after => exact ih

/-- The registry of a file is lost at the failure at which its lines stop. -/
theorem load_eq_error_iff_declared :
    load limit lines = .error failure ↔ declared limit none lines = .error failure := by
  have hregistry := load_registry limit lines
  cases hload : load limit lines with
  | error other =>
    cases hdeclared : declared limit none lines with
    | error another =>
      have hsame : other = another := by simpa [hload, hdeclared, Except.map] using hregistry
      rw [hsame]
      simp
    | ok units => simp [hload, hdeclared, Except.map] at hregistry
  | ok loaded =>
    cases hdeclared : declared limit none lines with
    | error another => simp [hload, hdeclared, Except.map] at hregistry
    | ok units => simp

/-- A file stops at its first overlong integer, and else it is loaded. -/
theorem load_eq_error_iff_firstStop? :
    load limit lines = .error failure ↔ firstStop? limit lines = some failure := by
  rw [load_eq_error_iff_declared, declared_eq_error_iff]
  simp [firstStop?]

/-- What a field makes of its values when they are the first ones for it: it accepts them as a
setting that a unit may have, or there is a warning with its fault and nothing else changes, or the
values are one integer with more digits than the limit allows. -/
inductive ValueFate (limit : DigitLimit) (field : Field) (key : String) (values : List String) :
    Prop
  /-- The field accepts the values. -/
  | accepted {setting : Setting} (read : field.read limit key values = .accepted setting)
      (same : setting.field = field) (valid : setting.Valid)
  /-- The field refuses the values, and the refusal becomes a warning. -/
  | refused {fault : ValueFault} (read : field.read limit key values = .refused fault)
      (warns : ∀ (reader : Reader) (declaration : Declaration) (number : Nat),
        reader.current = some declaration → Field.ofKey? key = some field →
          declaration.sets field = false → reader.assign limit number key values =
            .ok (reader.warn number (.refused declaration.name fault)))
  /-- The field is the exponent of prefixes, and its integer has too many digits. -/
  | overlong {text : String} {most : Nat} (same : field = .dimensions) (only : values = [text])
      (integer : isInteger text.toList = true) (limited : limit = some most)
      (long : most < (splitSign text.toList).2.length)
      (read : field.read limit key values =
        .overlong ⟨most, (splitSign text.toList).2.length⟩)

/-- The values of a field have one of the fates. -/
theorem valueFate (limit : DigitLimit) (field : Field) (key : String) (values : List String) :
    ValueFate limit field key values := by
  cases hread : field.read limit key values with
  | accepted setting =>
    obtain ⟨hsame, hvalid⟩ := Field.read_sound hread
    exact .accepted hread hsame hvalid
  | refused fault =>
    refine .refused hread fun reader declaration number hopen hkey hset => ?_
    simp [Reader.assign, hopen, hkey, hset, hread]
  | overlong failure =>
    obtain ⟨hsame, text, honly, hinteger, hdigits⟩ := Field.read_eq_overlong_iff.mp hread
    obtain ⟨most, hlimit, hlong, rfl⟩ := intOfDigits_eq_error_iff.mp hdigits
    exact .overlong hsame honly hinteger hlimit hlong hread

/-- Nothing stops a load but an exponent of prefixes with more digits than may be read. A file is
loaded when its lines hold none that is reached, and else the load stops at the first one. Every
text given to a field is accepted or refused with a warning, except for such an integer. -/
theorem load_stops_at_overlong_integer (limit : DigitLimit) (lines : List String) :
    (∀ failure, load limit lines = .error failure ↔ firstStop? limit lines = some failure) ∧
    ((∃ loaded, load limit lines = .ok loaded) ↔ firstStop? limit lines = none) ∧
    (∀ field key values, ValueFate limit field key values) := by
  refine ⟨fun failure => load_eq_error_iff_firstStop?, ?_, valueFate limit⟩
  constructor
  · rintro ⟨loaded, hloaded⟩
    rw [Option.eq_none_iff_forall_ne_some]
    intro failure hstop
    have hfails := load_eq_error_iff_firstStop?.mpr hstop
    rw [hloaded] at hfails
    contradiction
  · intro hnone
    cases hload : load limit lines with
    | ok loaded => exact ⟨loaded, rfl⟩
    | error failure =>
      have hstop := load_eq_error_iff_firstStop?.mp hload
      rw [hnone] at hstop
      contradiction

/-- An overlong line directly below the header of a file stops the load. -/
theorem not_loaded_below_header {header name : String} (hname : headerName? header = some name)
    (hlong : IsOverlong limit line) : ∀ loaded, load limit [header, line] ≠ .ok loaded := by
  have hentry : Entry.ofLine header = .header name := by
    have hread := name?_ofLine header
    rw [hname] at hread
    cases hentry : Entry.ofLine header with
    | header other =>
      rw [hentry] at hread
      rw [Option.some.inj hread]
    | blank | faulty | brokenHeader | assignment =>
      rw [hentry] at hread
      contradiction
  have hopens : Reader.initial.feedLines limit 1 [header] =
      .ok { Reader.initial with current := some ⟨name, 1, []⟩ } := by
    unfold Reader.feedLines Reader.feed
    rw [hentry]
    rfl
  obtain ⟨failure, hfails⟩ := load_eq_error_iff.mpr
    ⟨[header], line, [], _, _, rfl, hopens, rfl, rfl, hlong⟩
  intro loaded hloaded
  have hsame : Except.error failure = Except.ok loaded := hfails.symm.trans hloaded
  contradiction

/-- An integer with more digits than the limit allows is neither accepted nor refused, and the file
in which it stands below a header is not loaded. -/
theorem not_read_of_overlong {most : Nat} {text : String} (hinteger : isInteger text.toList = true)
    (hlong : most < (splitSign text.toList).2.length) :
    (∀ setting, Field.dimensions.read (some most) "dimensions" [text] ≠ .accepted setting) ∧
    (∀ fault, Field.dimensions.read (some most) "dimensions" [text] ≠ .refused fault) ∧
    ∀ loaded, load (some most) ["[b]", fieldLine "dimensions" [text]] ≠ .ok loaded := by
  have hread : Field.dimensions.read (some most) "dimensions" [text] =
      .overlong ⟨most, (splitSign text.toList).2.length⟩ :=
    Field.read_eq_overlong_iff.mpr
      ⟨rfl, text, rfl, hinteger, intOfDigits_eq_error_iff.mpr ⟨most, rfl, hlong, rfl⟩⟩
  refine ⟨by simp [hread], by simp [hread], ?_⟩
  have hname : headerName? "[b]" = some "b" := by decide +kernel
  exact not_loaded_below_header hname (isOverlong_fieldLine hinteger hlong)

/-- An exponent of prefixes with one digit more than may be read is neither accepted nor refused,
and the file in which it stands below a header is not loaded. -/
theorem load_stops_at_many_ones :
    (∀ setting, Field.dimensions.read digitLimit "dimensions"
      [String.ofList (List.replicate 4301 '1')] ≠ .accepted setting) ∧
    (∀ fault, Field.dimensions.read digitLimit "dimensions"
      [String.ofList (List.replicate 4301 '1')] ≠ .refused fault) ∧
    ∀ loaded, load digitLimit
      ["[b]", fieldLine "dimensions" [String.ofList (List.replicate 4301 '1')]] ≠ .ok loaded := by
  unfold digitLimit
  apply not_read_of_overlong
  · rw [String.toList_ofList]
    exact isInteger_replicate (by omega)
  · rw [String.toList_ofList, splitSign_replicate, List.length_replicate]
    omega

end UnitConversion.UnitsFile

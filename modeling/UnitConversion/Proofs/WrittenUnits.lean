import UnitConversion.Proofs.DeclarationFields
import UnitConversion.Proofs.WrittenFields

/-!
# Units that are written out

Units that share no names can be written into a units file, each with a header and one line for each
of its fields, in any order. Loading the file gives the same units back and nothing to warn about.
-/

namespace UnitConversion

namespace UnitsFile

open Text

/-- The field can be left out where the unit is written: the unit has the default there. The
quantity and the factor have no default, and negative zero is not the default zero point. -/
def HasDefault (unit : MeasureUnit) : Field → Prop
  | .aliases => unit.aliases = []
  | .quantity | .factor => False
  | .zeroPoint => unit.offset = 0.0
  | .dimensions => unit.dimensions = 1
  | .inverse => unit.inverse = false

/-- The lines write the unit: the header with its name, and below it one line for each field, in any
order. Fields may be left out where the unit has the default. -/
def WritesUnit (unit : MeasureUnit) (lines : List String) : Prop :=
  ∃ fields body, lines = headerLine unit.name :: body ∧
    List.Forall₂ (WritesField unit) fields body ∧ fields.Nodup ∧
    ∀ field, field ∉ fields → HasDefault unit field

/-- The declaration of the unit after lines for some of its fields. -/
def declarationOf (unit : MeasureUnit) (line : Nat) (fields : List Field) : Declaration :=
  ⟨unit.name, line, fields.map (settingOf unit)⟩

variable {unit : MeasureUnit} {line : Nat} {fields : List Field}

@[simp]
theorem field_settingOf (unit : MeasureUnit) (field : Field) :
    (settingOf unit field).field = field := by
  cases field <;> rfl

/-- The setting of a field is the one that was written. -/
theorem setting?_declarationOf (unit : MeasureUnit) (line : Nat) (fields : List Field)
    (field : Field) : (declarationOf unit line fields).setting? field =
      if field ∈ fields then some (settingOf unit field) else none := by
  unfold Declaration.setting? declarationOf
  induction fields with
  | nil => rfl
  | cons first rest ih =>
    rw [List.map_cons, List.find?_cons, field_settingOf]
    by_cases hfirst : first = field
    · simp [hfirst]
    · have hother : field ≠ first := fun hsame => hfirst hsame.symm
      simp only [beq_eq_false_iff_ne.mpr hfirst, List.mem_cons, hother, false_or]
      exact ih

/-- A field is set when it was written. -/
theorem sets_declarationOf {field : Field} (h : field ∉ fields) :
    (declarationOf unit line fields).sets field = false := by
  rw [← Declaration.isSome_setting?, setting?_declarationOf, if_neg h]
  rfl

/-- When no other fields are left out than those with defaults, the declaration describes the
unit. -/
theorem declarationOf_parts (unit : MeasureUnit) (line : Nat)
    (defaults : ∀ field, field ∉ fields → HasDefault unit field) :
    (declarationOf unit line fields).quantity? = some unit.quantity ∧
      (declarationOf unit line fields).factor? = some unit.factor ∧
      (declarationOf unit line fields).aliases = unit.aliases ∧
      (declarationOf unit line fields).zeroPoint = unit.offset ∧
      (declarationOf unit line fields).dimensions = unit.dimensions ∧
      (declarationOf unit line fields).inverse = unit.inverse := by
  obtain ⟨hquantity, hfactor, haliases, hzeroPoint, hdimensions, hinverse⟩ :=
    (declarationOf unit line fields).fields_eq
  rw [hquantity, hfactor, haliases, hzeroPoint, hdimensions, hinverse]
  simp only [setting?_declarationOf]
  refine ⟨?_, ?_, ?_, ?_, ?_, ?_⟩
  · by_cases hin : .quantity ∈ fields
    · simp [hin, settingOf]
    · exact (defaults _ hin).elim
  · by_cases hin : .factor ∈ fields
    · simp [hin, settingOf]
    · exact (defaults _ hin).elim
  · by_cases hin : .aliases ∈ fields
    · simp [hin, settingOf]
    · simpa [hin] using (defaults _ hin).symm
  · by_cases hin : .zeroPoint ∈ fields
    · simp [hin, settingOf]
    · simpa [hin] using (defaults _ hin).symm
  · by_cases hin : .dimensions ∈ fields
    · simp [hin, settingOf]
    · have hone : unit.dimensions = 1 := defaults _ hin
      simp [hin, hone]
  · by_cases hin : .inverse ∈ fields
    · simp [hin, settingOf]
    · simpa [hin] using (defaults _ hin).symm

/-- Joining names of which none is repeated leaves none out. -/
theorem joinNames_of_nodup {names further : List String} (h : (names ++ further).Nodup) :
    Declaration.joinNames names further = (names ++ further, []) := by
  induction further generalizing names with
  | nil => simp [Declaration.joinNames]
  | cons name further ih =>
    have hnew : names.contains name = false := by
      rw [← Bool.not_eq_true, List.contains_iff_mem]
      intro hin
      exact (List.nodup_append.mp h).2.2 name hin name List.mem_cons_self rfl
    rw [List.append_cons] at h
    rw [Declaration.joinNames, hnew, if_neg Bool.false_ne_true, ih h, List.append_assoc,
      List.singleton_append]

/-- The primary name and the aliases are all names of the unit. -/
theorem joinNames_names (unit : MeasureUnit) :
    Declaration.joinNames [unit.name] unit.aliases = (unit.names, []) := by
  have hnames : [unit.name] ++ unit.aliases = unit.names := List.cons_head_tail unit.names_ne_nil
  have hnodup := unit.names_nodup
  rw [← hnames] at hnodup
  rw [joinNames_of_nodup hnodup, hnames]

namespace Reader

/-- A unit with free names is added as it is, and there is nothing to warn about. -/
theorem addUnit_of_free {reader : Reader} (declaration : Declaration)
    (free : ∀ name ∈ unit.names, reader.registry.contains name = false) :
    reader.addUnit declaration unit =
      { reader with registry := ⟨reader.registry.units ++ [unit]⟩ } := by
  have hconflicts : reader.registry.conflicts unit = [] := by
    rw [Registry.conflicts, List.filter_eq_nil_iff]
    exact fun name hin => by simp [free name hin]
  have hstored : unit.restrictNames? (fun name => !reader.registry.contains name) =
      some unit := by
    apply MeasureUnit.restrictNames?_self
    rw [List.filter_eq_self]
    exact fun name hin => by simp [free name hin]
  simp only [addUnit, hconflicts, List.isEmpty_nil, if_true, Registry.add, hstored]

/-- The end of a declaration that describes a unit with free names adds the unit. -/
theorem finish_declarationOf (reader : Reader)
    (defaults : ∀ field, field ∉ fields → HasDefault unit field)
    (hcurrent : reader.current = some (declarationOf unit line fields))
    (free : ∀ name ∈ unit.names, reader.registry.contains name = false) :
    reader.finish = ⟨⟨reader.registry.units ++ [unit]⟩, reader.warnings, none⟩ := by
  obtain ⟨hquantity, hfactor, haliases, hzeroPoint, hdimensions, hinverse⟩ :=
    declarationOf_parts unit line defaults
  have hunit : (declarationOf unit line fields).unit unit.names unit.quantity unit.factor =
      .ok unit := by
    rw [Declaration.unit, hzeroPoint, hdimensions, hinverse, MeasureUnit.make_self]
  have hjoined : Declaration.joinNames [(declarationOf unit line fields).name]
      (declarationOf unit line fields).aliases = (unit.names, []) := by
    rw [haliases]
    exact joinNames_names unit
  unfold finish
  rw [hcurrent]
  dsimp only
  rw [hquantity, hfactor]
  dsimp only [declareUnit]
  rw [hjoined, hunit]
  exact addUnit_of_free _ free

/-- A line that writes a field that is not set yet sets it as the unit has it. -/
theorem feed_of_writesField (reader : Reader) {field : Field} {text : String}
    (names : ∀ name ∈ unit.names, IsName name) (h : WritesField unit field text)
    (hcurrent : reader.current = some (declarationOf unit line fields)) (hnew : field ∉ fields)
    (number : Nat) :
    reader.feed digitLimit number text =
      .ok { reader with current := some (declarationOf unit line (fields ++ [field])) } := by
  obtain ⟨key, values, hline, hkey, hread⟩ := exists_assignment_of_writesField names h
  unfold feed
  rw [hline, take, assign, hcurrent]
  simp only [hkey, sets_declarationOf hnew, hread, Bool.false_eq_true, if_false]
  simp [declarationOf]

/-- Lines that write further fields set them as the unit has them. -/
theorem feedLines_of_writesFields (reader : Reader) {later : List Field} {body : List String}
    (names : ∀ name ∈ unit.names, IsName name)
    (written : List.Forall₂ (WritesField unit) later body)
    (hcurrent : reader.current = some (declarationOf unit line fields))
    (hnodup : (fields ++ later).Nodup) (number : Nat) :
    reader.feedLines digitLimit number body =
      .ok { reader with current := some (declarationOf unit line (fields ++ later)) } := by
  induction written generalizing reader fields number with
  | nil =>
    rw [List.append_nil, ← hcurrent]
    rfl
  | @cons field text later body hfield _ ih =>
    have hnew : field ∉ fields := fun hin =>
      (List.nodup_append.mp hnodup).2.2 field hin field List.mem_cons_self rfl
    rw [List.append_cons] at hnodup ⊢
    rw [feedLines, feed_of_writesField reader names hfield hcurrent hnew]
    exact ih _ rfl hnodup (number + 1)

/-- Lines are read one list after the other. -/
theorem feedLines_append (limit : DigitLimit) (reader : Reader) (number : Nat)
    (first second : List String) :
    reader.feedLines limit number (first ++ second) =
      (reader.feedLines limit number first).bind fun between =>
        between.feedLines limit (number + first.length) second := by
  induction first generalizing reader number with
  | nil => rfl
  | cons text rest ih =>
    have hnumber : number + (text :: rest).length = number + 1 + rest.length := by
      rw [List.length_cons]
      omega
    rw [List.cons_append, feedLines, feedLines, hnumber]
    cases reader.feed limit number text with
    | error failure => rfl
    | ok between => exact ih between (number + 1)

/-- Lines that write a unit close what is open above them, and their own end adds the unit if its
names are free. -/
theorem feedLines_of_writesUnit (reader : Reader) {block : List String}
    (names : ∀ name ∈ unit.names, IsName name) (written : WritesUnit unit block)
    (free : ∀ name ∈ unit.names, reader.finish.registry.contains name = false) (number : Nat) :
    ∃ after, reader.feedLines digitLimit number block = .ok after ∧
      after.finish =
        ⟨⟨reader.finish.registry.units ++ [unit]⟩, reader.finish.warnings, none⟩ := by
  obtain ⟨fields, body, rfl, hbody, hnodup, defaults⟩ := written
  have hname : IsName unit.name := names unit.name (List.head_mem unit.names_ne_nil)
  have hopened : reader.feed digitLimit number (headerLine unit.name) =
      .ok { reader.finish with current := some (declarationOf unit number []) } := by
    rw [feed, ofLine_headerLine hname]
    rfl
  have hread := feedLines_of_writesFields
    { reader.finish with current := some (declarationOf unit number []) } names hbody rfl
    (by simpa using hnodup) (number + 1)
  refine ⟨{ reader.finish with current := some (declarationOf unit number fields) }, ?_,
    finish_declarationOf _ defaults rfl free⟩
  rw [feedLines, hopened]
  exact hread

/-- Lines that write units one after another add these units to those above them, if no two of them
share a name. -/
theorem feedLines_of_writesUnits {units : List MeasureUnit} {blocks : List (List String)}
    (written : List.Forall₂ WritesUnit units blocks)
    (names : ∀ unit ∈ units, ∀ name ∈ unit.names, IsName name) {reader : Reader}
    {before : List MeasureUnit} (hbefore : reader.finish = ⟨⟨before⟩, [], none⟩)
    (disjoint : (before ++ units).Pairwise fun left right =>
      List.Disjoint left.names right.names) (number : Nat) :
    ∃ after, reader.feedLines digitLimit number blocks.flatten = .ok after ∧
      after.finish = ⟨⟨before ++ units⟩, [], none⟩ := by
  induction written generalizing reader before number with
  | nil => exact ⟨reader, rfl, by rw [List.append_nil, hbefore]⟩
  | @cons unit block units blocks hunit _ ih =>
    obtain ⟨hnames, hlater⟩ := List.forall_mem_cons.mp names
    have free : ∀ name ∈ unit.names, reader.finish.registry.contains name = false := by
      intro name hname
      rw [← Bool.not_eq_true, Registry.contains_iff, hbefore]
      rintro ⟨earlier, hearlier, htaken⟩
      exact (List.pairwise_append.mp disjoint).2.2 earlier hearlier unit List.mem_cons_self htaken
        hname
    obtain ⟨between, hblock, hbetween⟩ := feedLines_of_writesUnit reader hnames hunit free number
    rw [hbefore] at hbetween
    rw [List.append_cons] at disjoint ⊢
    obtain ⟨after, hrest, hafter⟩ := ih hlater hbetween disjoint (number + block.length)
    refine ⟨after, ?_, hafter⟩
    rw [List.flatten_cons, feedLines_append, hblock]
    exact hrest

end Reader

/-- Units that share no names are loaded as they are written, in the same order, and there is nothing
to warn about. -/
theorem load_written {units : List MeasureUnit} {blocks : List (List String)}
    (disjoint : units.Pairwise fun left right => List.Disjoint left.names right.names)
    (names : ∀ unit ∈ units, ∀ name ∈ unit.names, IsName name)
    (written : List.Forall₂ WritesUnit units blocks) :
    load digitLimit blocks.flatten = .ok ⟨⟨units⟩, []⟩ := by
  obtain ⟨after, hlines, hafter⟩ := Reader.feedLines_of_writesUnits written names
    (show Reader.initial.finish = ⟨⟨[]⟩, [], none⟩ from rfl) disjoint 1
  unfold load
  rw [hlines]
  change Except.ok (⟨after.finish.registry, after.finish.warnings⟩ : Loaded) = _
  rw [hafter]
  rfl

/-- A unit without a default in any field, and with names that need backslashes. -/
def bracketedUnit : MeasureUnit where
  names := ["[a, b]", "#\\"]
  quantity := .fuelEconomy
  factor := 2.5
  offset := -0.1
  dimensions := 12
  inverse := true
  names_ne_nil := by decide
  names_nodup := by decide
  factor_valid := by decide +kernel
  offset_finite := by decide +kernel
  dimensions_valid := by decide

/-- The default exponent of prefixes is in range. -/
theorem default_dimensions_valid : 1 ≤ 1 ∧ 1 ≤ maxDimensions := by decide

/-- A unit with all defaults, and with a name that looks like a field. -/
def fieldNamedUnit : MeasureUnit where
  names := ["offset = 1"]
  quantity := .length
  factor := 1.0
  offset := 0.0
  dimensions := 1
  inverse := false
  names_ne_nil := by decide
  names_nodup := by decide
  factor_valid := by decide +kernel
  offset_finite := by decide +kernel
  dimensions_valid := default_dimensions_valid

/-- The fields of a unit may stand in any order, and those with defaults may be missing. -/
theorem load_written_bracketedUnit :
    load digitLimit
        ["[\\[a\\, b\\]]", "inverse = 1", "offset = -1e-1", "aliases = \\#\\\\", "dimensions = 12",
          "conv_factor = 2.50", "type = fuel economy",
          "[offset \\= 1]", "conv_factor = 1", "type = length"] =
      .ok ⟨⟨[bracketedUnit, fieldNamedUnit]⟩, []⟩ := by
  have hbracketed : WritesUnit bracketedUnit
      [headerLine bracketedUnit.name,
        fieldLine "inverse" [if bracketedUnit.inverse then "1" else "0"],
        fieldLine "offset" ["-1e-1"],
        fieldLine "aliases" (bracketedUnit.aliases.map written),
        fieldLine "dimensions" [toString bracketedUnit.dimensions],
        fieldLine "conv_factor" ["2.50"],
        fieldLine "type" [bracketedUnit.quantity.name]] := by
    refine ⟨[.inverse, .zeroPoint, .aliases, .dimensions, .factor, .quantity], _, rfl, ?_,
      by decide, fun field hleft => ?_⟩
    · have hfactor : WritesNumber "2.50" bracketedUnit.factor := ⟨by decide, by decide +kernel⟩
      have hoffset : WritesNumber "-1e-1" bracketedUnit.offset := ⟨by decide, by decide +kernel⟩
      exact .cons .inverse (.cons (.zeroPoint (.inr rfl) hoffset) (.cons .aliases
        (.cons .dimensions (.cons (.factor hfactor) (.cons .quantity .nil)))))
    · cases field <;> exact absurd (by decide) hleft
  have hfieldNamed : WritesUnit fieldNamedUnit
      [headerLine fieldNamedUnit.name,
        fieldLine "conv_factor" ["1"],
        fieldLine "type" [fieldNamedUnit.quantity.name]] := by
    refine ⟨[.factor, .quantity], _, rfl, ?_, by decide, fun field hleft => ?_⟩
    · have hfactor : WritesNumber "1" fieldNamedUnit.factor := ⟨by decide, by decide +kernel⟩
      exact .cons (.factor hfactor) (.cons .quantity .nil)
    · cases field <;> first | rfl | exact absurd (by decide) hleft
  have hnames : ∀ unit ∈ [bracketedUnit, fieldNamedUnit], ∀ name ∈ unit.names, IsName name := by
    decide +kernel
  have hdisjoint : [bracketedUnit, fieldNamedUnit].Pairwise fun left right =>
      List.Disjoint left.names right.names := by
    simp [bracketedUnit, fieldNamedUnit]
  have hload := load_written hdisjoint hnames (.cons hbracketed (.cons hfieldNamed .nil))
  refine Eq.trans (congrArg (load digitLimit) ?_) hload
  decide +kernel

end UnitsFile

end UnitConversion

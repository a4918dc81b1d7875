import UnitConversion.Proofs.RecallInvariant
import UnitConversion.Proofs.RegistryHistory
import UnitConversion.Proofs.UnitNames

/-!
# Names that are typed

Every name in the registry of a file can be typed. With a backslash before each of its characters it
is one word of a console line, whatever characters these are; the word is read as the name, and the
name finds its unit.
-/

namespace UnitConversion

open UnitExpression

/-- The unit can be asked for by the name, in a word that has a backslash before each character of
the name and may have a metric prefix in front. -/
structure FoundByTyping (registry : Registry) (unit : MeasureUnit) (name : String) : Prop where
  /-- The name holds something and stands on one line. -/
  isName : UnitsFile.IsName name
  /-- On a line with other words, the word stays one word at its place. -/
  oneWord : ∀ metric before after, (∀ word ∈ before ++ after, Line.IsWord word) →
    Line.words (" ".intercalate (before ++ literalWord metric name :: after)) =
      .ok (before ++ literalWord metric name :: after)
  /-- The word is read as the name, behind the metric prefix. -/
  read : ∀ metric, UnitExpression.read (literalWord metric name) = .ok (literalOf metric name)
  /-- The word is resolved to the unit in both places that hold units, whatever is recalled. -/
  resolved : ∀ metric slot remembered, slot ≠ Slot.value →
    ((resolveUnit registry slot (literalWord metric name)).runOn remembered).1 =
      .ok ⟨unit, (prefixParts metric).1, (prefixParts metric).2, name⟩

/-- A backslash before each character takes the meaning from all of them. -/
theorem taken_escaped {isDelimiter : Char → Bool} {name : String} (h : Line.OneLine name) :
    Line.Taken isDelimiter true (escaped name) (escaped name) := by
  unfold escaped
  unfold Line.OneLine at h
  generalize name.toList = chars at h ⊢
  induction chars with
  | nil => exact .nil
  | cons c rest ih =>
    obtain ⟨hfirst, hlater⟩ := List.forall_mem_cons.mp h
    exact .escaped hfirst (ih hlater)

/-- The letter of a metric prefix has no meaning of its own on a console line. -/
theorem isMeaningful_letter (metric : MetricPrefix) :
    Line.isMeaningful Line.separatesWords metric.letter = false := by
  cases metric <;> rfl

/-- The word that names a unit is taken as a whole. -/
theorem taken_literalWord (metric : Option MetricPrefix) {name : String}
    (h : Line.OneLine name) :
    Line.Taken Line.separatesWords true (literalWord metric name).toList
      (literalWord metric name).toList := by
  cases metric with
  | none =>
    simp only [literalWord, prefixedWord, String.toList_ofList]
    exact taken_escaped h
  | some metric =>
    simp only [literalWord, prefixedWord, String.toList_ofList]
    exact .plain rfl (.plain (isMeaningful_letter metric) (taken_escaped h))

/-- The word that names a unit is not empty. -/
theorem literalWord_ne_empty (metric : Option MetricPrefix) {name : String} (h : name ≠ "") :
    literalWord metric name ≠ "" := by
  obtain ⟨rest, hescaped⟩ := escaped_eq_cons h
  cases metric <;> simp [literalWord, prefixedWord, hescaped, String.ofList_eq_empty_iff]

/-- The word that names a unit stays one word among the other words of a line. -/
theorem words_literalWord (metric : Option MetricPrefix) {name : String}
    (hname : UnitsFile.IsName name) {before after : List String}
    (hwords : ∀ word ∈ before ++ after, Line.IsWord word) :
    Line.words (" ".intercalate (before ++ literalWord metric name :: after)) =
      .ok (before ++ literalWord metric name :: after) := by
  apply Line.words_intercalate
  intro word hword
  have hcases : word = literalWord metric name ∨ word ∈ before ++ after := by
    rw [List.mem_append, List.mem_cons] at hword
    rw [List.mem_append]
    tauto
  rcases hcases with rfl | hother
  · exact ⟨literalWord_ne_empty metric hname.nonempty, taken_literalWord metric hname.oneLine⟩
  · exact (hwords word hother).taken

/-- The word that names a unit is resolved to the unit that the registry finds under the name. -/
theorem runOn_resolveUnit_literalWord {registry : Registry} {unit : MeasureUnit} {name : String}
    (hname : name ≠ "") (hlookup : registry.lookup name = some unit)
    (metric : Option MetricPrefix) {slot : Slot} (hslot : slot ≠ .value) (remembered : Recall) :
    ((resolveUnit registry slot (literalWord metric name)).runOn remembered).1 =
      .ok ⟨unit, (prefixParts metric).1, (prefixParts metric).2, name⟩ := by
  rw [Attempt.runOn_eq_runFrom, runFrom_resolveUnit,
    unitOf_of_literalOf (read_literalWord metric hname)]
  unfold foundUnitOf
  rw [hlookup]
  cases slot with
  | value => contradiction
  | input => rfl
  | output => rfl

namespace UnitsFile

open Text

/-- No name occurs twice in the registry of a file. -/
theorem distinct_of_load {limit : DigitLimit} {lines : List String} {loaded : Loaded}
    (h : load limit lines = .ok loaded) : loaded.registry.Distinct := by
  have hregistry := load_registry limit lines
  rw [h] at hregistry
  obtain ⟨units, -, hunits⟩ := Outcome.map_eq_ok.mp hregistry.symm
  rw [← hunits]
  exact Registry.distinct_addAll_empty units

/-- Every unit of a file can be asked for by each of its names. -/
theorem names_found_by_typing {limit : DigitLimit} {lines : List String} {loaded : Loaded}
    {unit : MeasureUnit} {name : String} (h : load limit lines = .ok loaded)
    (hunit : unit ∈ loaded.registry.units) (hname : name ∈ unit.names) :
    FoundByTyping loaded.registry unit name where
  isName := isName_of_load h hunit hname
  oneWord := fun metric _ _ => words_literalWord metric (isName_of_load h hunit hname)
  read := fun metric => read_literalWord metric (isName_of_load h hunit hname).nonempty
  resolved := by
    intro metric slot remembered hslot
    have hlookup := (distinct_of_load h).lookup_eq_some_iff.mpr ⟨hunit, hname⟩
    exact runOn_resolveUnit_literalWord (isName_of_load h hunit hname).nonempty hlookup metric
      hslot remembered

/-- So is a unit whose alias starts like a metric prefix and holds a blank and a number sign. -/
theorem names_found_by_typing_number_sign :
    ∃ loaded unit, load digitLimit
        ["[\\:]", "aliases = _k \\#1\\, , a", "type = length", "conv_factor = 2"] = .ok loaded ∧
      unit ∈ loaded.registry.units ∧ "_k #1," ∈ unit.names ∧
      FoundByTyping loaded.registry unit "_k #1," := by
  have hnames : (load digitLimit
      ["[\\:]", "aliases = _k \\#1\\, , a", "type = length", "conv_factor = 2"]).map
        (fun loaded => loaded.registry.units.map MeasureUnit.names) =
      .ok [[":", "_k #1,", "a"]] := by decide +kernel
  obtain ⟨loaded, hloaded, hunits⟩ := Outcome.map_eq_ok.mp hnames
  obtain ⟨unit, rest, hregistry, hunit, -⟩ := List.map_eq_cons_iff.mp hunits
  have hin : unit ∈ loaded.registry.units := by simp [hregistry]
  have hname : "_k #1," ∈ unit.names := by simp [hunit]
  exact ⟨loaded, unit, hloaded, hin, hname, names_found_by_typing hloaded hin hname⟩

end UnitsFile

end UnitConversion

import UnitConversion.Proofs.DeclaredUnits
import UnitConversion.Proofs.HeaderLines

/-!
# Units files one behind the other

The lines of two units files, read as one file. When the second one starts with a header, it closes
what the first one left open, and what it declares depends on nothing before it. The one file then
has the units of the first and, added to them, those of the second.
-/

namespace UnitConversion.UnitsFile

open Text

/-- The first line that is not blank, if there is one, scans and begins with a bracket. -/
def startsWithHeader (lines : List String) : Bool :=
  (lines.find? fun line => !isBlankLine line).all fun line =>
    scans line && beginsWithBracket line.toList

/-- Lines that start with a header close what is open and declare the same units as on their own. -/
theorem declared_of_startsWithHeader {limit : DigitLimit} {lines : List String}
    (start : startsWithHeader lines = true) (current : Option Declaration) :
    declared limit current lines =
      (declared limit none lines).map ((current.bind Declaration.unit?).toList ++ ·) := by
  induction lines with
  | nil => simp [declared, Except.map]
  | cons line rest ih =>
    rw [declared, declared]
    by_cases hblank : isBlankLine line = true
    · have hrest : startsWithHeader rest = true := by
        simpa [startsWithHeader, hblank] using start
      rw [ofLine_of_isBlankLine hblank]
      exact ih hrest
    · have hcloses : (Entry.ofLine line).closes = true := by
        rw [closes_ofLine, opensGroup_eq]
        simpa [startsWithHeader, hblank] using start
      cases hentry : Entry.ofLine line with
      | brokenHeader problem =>
        dsimp only
        cases declared limit none rest <;> rfl
      | header name =>
        dsimp only
        cases declared limit (some ⟨name, 0, []⟩) rest <;> rfl
      | blank => simp [hentry, Entry.closes] at hcloses
      | faulty problem => simp [hentry, Entry.closes] at hcloses
      | assignment key values => simp [hentry, Entry.closes] at hcloses

/-- Lines before others that start with a header declare their units first. -/
theorem declared_append {limit : DigitLimit} {after : List String}
    (start : startsWithHeader after = true) (current : Option Declaration) (before : List String) :
    declared limit current (before ++ after) =
      (declared limit current before).bind fun first =>
        (declared limit none after).map (first ++ ·) := by
  induction before generalizing current with
  | nil => exact declared_of_startsWithHeader start current
  | cons line rest ih =>
    have hclosed : ∀ (closed : List MeasureUnit) (current : Option Declaration),
        (declared limit current (rest ++ after)).map (closed ++ ·) =
          ((declared limit current rest).map (closed ++ ·)).bind fun first =>
            (declared limit none after).map (first ++ ·) := by
      intro closed current
      rw [ih current]
      cases declared limit current rest with
      | error failure => rfl
      | ok first => cases declared limit none after <;> simp [Except.map, Except.bind]
    rw [List.cons_append, declared, declared]
    cases Entry.ofLine line with
    | blank => exact ih current
    | faulty problem => exact ih current
    | brokenHeader problem => exact hclosed _ none
    | header name => exact hclosed _ _
    | assignment key values =>
      dsimp only
      cases Declaration.assignOpen limit current key values with
      | error failure => rfl
      | ok next => exact ih next

/-- Of two files that are loaded the registries alone matter. -/
theorem bind_map_registry (first second : Except TooManyDigits Loaded) :
    (first.bind fun first =>
        second.map fun second => first.registry.addAll second.registry.units) =
      (first.map Loaded.registry).bind fun first =>
        (second.map Loaded.registry).map fun second => first.addAll second.units := by
  cases first with
  | error failure => rfl
  | ok first => cases second <;> rfl

/-- Two files read as one: the units of the second are added to the registry of the first. Files
that cannot both be loaded cannot be loaded as one either. -/
theorem registry_load_append (limit : DigitLimit) {after : List String}
    (start : startsWithHeader after = true) (before : List String) :
    (load limit (before ++ after)).map Loaded.registry =
      (load limit before).bind fun first =>
        (load limit after).map fun second => first.registry.addAll second.registry.units := by
  rw [bind_map_registry, load_registry, load_registry, load_registry, declared_append start]
  cases declared limit none before with
  | error failure => rfl
  | ok units =>
    cases declared limit none after with
    | error failure => rfl
    | ok later =>
      simp [Except.map, Except.bind, Registry.addAll_append, Registry.addAll_units_addAll_empty]

/-- The registry of two files read as one is that of the first with the stored units of the second
added in order. Without shared names the lists of units stand one behind the other, and the second
file never takes a name from a unit of the first. -/
theorem load_append (limit : DigitLimit) {after : List String}
    (start : startsWithHeader after = true) (before : List String) :
    (load limit (before ++ after)).map Loaded.registry =
      ((load limit before).bind fun first =>
        (load limit after).map fun second => first.registry.addAll second.registry.units) ∧
    ∀ first second whole, load limit before = .ok first → load limit after = .ok second →
      load limit (before ++ after) = .ok whole →
      ((∀ name, first.registry.contains name = true → second.registry.contains name = false) →
        whole.registry.units = first.registry.units ++ second.registry.units) ∧
      ∀ name unit, first.registry.lookup name = some unit →
        whole.registry.lookup name = some unit := by
  have hwhole := registry_load_append limit start before
  refine ⟨hwhole, fun first second whole hfirst hsecond hload => ?_⟩
  rw [hfirst, hsecond, hload] at hwhole
  have hregistry : whole.registry = first.registry.addAll second.registry.units := by
    simpa [Except.map, Except.bind] using hwhole
  constructor
  · intro disjoint
    have hafter := load_registry limit after
    rw [hsecond] at hafter
    obtain ⟨units, -, hunits⟩ := Outcome.map_eq_ok.mp hafter.symm
    rw [hregistry, ← hunits, Registry.addAll_units_addAll_empty]
    apply Registry.units_addAll_of_disjoint
    intro name hname
    rw [hunits]
    exact disjoint name hname
  · intro name unit hlookup
    rw [hregistry]
    exact Registry.lookup_addAll_of_some hlookup

/-- A file with an open unit, and one behind it whose header closes that unit and which brings an
alias that is taken. -/
theorem load_append_of_open_unit :
    startsWithHeader ["", "[b]", "aliases = a, c", "type = mass", "conv_factor = 2"] = true ∧
    (load digitLimit
        (["[a]", "type = length", "conv_factor = 1"] ++
          ["", "[b]", "aliases = a, c", "type = mass", "conv_factor = 2"])).map Loaded.registry =
      (load digitLimit ["[a]", "type = length", "conv_factor = 1"]).bind fun first =>
        (load digitLimit ["", "[b]", "aliases = a, c", "type = mass", "conv_factor = 2"]).map
          fun second => first.registry.addAll second.registry.units := by
  have start : startsWithHeader ["", "[b]", "aliases = a, c", "type = mass", "conv_factor = 2"] =
      true := by decide +kernel
  exact ⟨start, (load_append digitLimit start _).1⟩

end UnitConversion.UnitsFile

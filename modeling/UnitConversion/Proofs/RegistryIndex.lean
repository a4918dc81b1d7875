import Mathlib.Logic.Function.Basic
import UnitConversion.Proofs.RegistryAdding

/-!
# A registry with an index of its names

The units of a registry can be found without a search when the position of each name is written down
as units are added. A unit that is stored enters its names under the length of the list before it.
The list and the index say the same as the list alone, whatever is added.
-/

namespace UnitConversion

/-- A list of units, and for each name the position of its unit. -/
structure IndexedRegistry where
  /-- The units, in the order in which they were added. -/
  units : List MeasureUnit
  /-- The position of the unit of a name. -/
  position? : String → Option Nat

namespace IndexedRegistry

/-- The registry without units and names. -/
def empty : IndexedRegistry := ⟨[], fun _ => none⟩

/-- The unit at the position of a name. -/
def lookup (indexed : IndexedRegistry) (name : String) : Option MeasureUnit :=
  (indexed.position? name).bind fun position => indexed.units[position]?

/-- The names of a unit that have a position already. -/
def conflicts (indexed : IndexedRegistry) (unit : MeasureUnit) : List String :=
  unit.names.filter fun name => (indexed.position? name).isSome

/-- Give names a position. -/
def enter (position? : String → Option Nat) (names : List String) (position : Nat) :
    String → Option Nat :=
  names.foldl (fun position? name => Function.update position? name (some position)) position?

/-- Store a unit under those of its names that have no position, and enter these. -/
def add (indexed : IndexedRegistry) (unit : MeasureUnit) : IndexedRegistry × Option MeasureUnit :=
  match unit.restrictNames? fun name => (indexed.position? name).isNone with
  | none => (indexed, none)
  | some stored =>
    (⟨indexed.units ++ [stored], enter indexed.position? stored.names indexed.units.length⟩,
      some stored)

/-- Add units one after another. -/
def addAll (indexed : IndexedRegistry) (units : List MeasureUnit) : IndexedRegistry :=
  units.foldl (fun indexed unit => (indexed.add unit).1) indexed

/-- The list is that of a registry, and the index gives the position of the first unit of each
name. -/
structure Indexes (indexed : IndexedRegistry) (registry : Registry) : Prop where
  /-- The units are the same. -/
  units : indexed.units = registry.units
  /-- A name has the position at which a search ends. -/
  position? : ∀ name, indexed.position? name = registry.units.findIdx? (·.hasName name)

/-- The names that are entered have the position, and the others keep theirs. -/
theorem enter_apply (position? : String → Option Nat) (names : List String) (position : Nat)
    (name : String) :
    enter position? names position name =
      if name ∈ names then some position else position? name := by
  induction names generalizing position? with
  | nil => simp [enter]
  | cons first names ih =>
    change enter (Function.update position? first (some position)) names position name = _
    rw [ih, Function.update_apply]
    by_cases hfirst : name = first <;> simp [hfirst]

variable {indexed : IndexedRegistry} {registry : Registry}

/-- A name has a position exactly when the registry knows it. -/
theorem Indexes.isSome_position? (indexes : indexed.Indexes registry) (name : String) :
    (indexed.position? name).isSome = registry.contains name := by
  rw [indexes.position?, List.findIdx?_isSome, Registry.contains, Registry.lookup,
    Bool.eq_iff_iff, List.find?_isSome, List.any_eq_true]

/-- The unit at the position of a name is the one that a search finds. -/
theorem Indexes.lookup (indexes : indexed.Indexes registry) (name : String) :
    indexed.lookup name = registry.lookup name := by
  rw [IndexedRegistry.lookup, indexes.position?, indexes.units, Registry.lookup,
    List.find?_eq_bind_findIdx?_getElem?]

/-- The names that have a position are those that are known. -/
theorem Indexes.conflicts (indexes : indexed.Indexes registry) (unit : MeasureUnit) :
    indexed.conflicts unit = registry.conflicts unit := by
  unfold IndexedRegistry.conflicts Registry.conflicts
  simp only [indexes.isSome_position?]

/-- Adding a unit stores the same unit in both, and the index stays right. -/
theorem Indexes.add (indexes : indexed.Indexes registry) (unit : MeasureUnit) :
    (indexed.add unit).1.Indexes (registry.add unit).1 ∧
      (indexed.add unit).2 = (registry.add unit).2 := by
  have hfree : (fun name => (indexed.position? name).isNone) =
      fun name => !registry.contains name := by
    funext name
    rw [← indexes.isSome_position?, Option.not_isSome]
  unfold IndexedRegistry.add Registry.add
  rw [hfree]
  cases hstored : unit.restrictNames? fun name => !registry.contains name with
  | none => exact ⟨indexes, rfl⟩
  | some stored =>
    refine ⟨⟨by rw [indexes.units], fun name => ?_⟩, rfl⟩
    have hnames := MeasureUnit.names_of_restrictNames? hstored
    dsimp only
    rw [enter_apply, List.findIdx?_append, indexes.position?, indexes.units]
    by_cases hname : name ∈ stored.names
    · -- The name was free, so that no unit before this one is found under it.
      have hunknown : registry.contains name = false := by
        rw [hnames, List.mem_filter] at hname
        simpa using hname.2
      have hnone : registry.units.findIdx? (·.hasName name) = none := by
        rw [← indexes.isSome_position?, indexes.position?] at hunknown
        simpa using hunknown
      rw [if_pos hname, hnone]
      simp [MeasureUnit.hasName, hname]
    · rw [if_neg hname]
      simp [MeasureUnit.hasName, hname]

/-- Adding units one after another keeps the index right. -/
theorem Indexes.addAll (indexes : indexed.Indexes registry) (units : List MeasureUnit) :
    (indexed.addAll units).Indexes (registry.addAll units) := by
  induction units generalizing indexed registry with
  | nil => exact indexes
  | cons unit units ih => exact ih (indexes.add unit).1

/-- Nothing is found without units. -/
theorem indexes_empty : empty.Indexes Registry.empty := ⟨rfl, fun _ => rfl⟩

end IndexedRegistry

end UnitConversion

import UnitConversion.Proofs.RegistryAdding
import UnitConversion.UnitsFile.Reader

/-!
# The units that lines declare

What a reader does to its registry is adding units: those of the declarations that are closed, in
the order of their headers. Which units these are depends on the lines and on the declaration that
is open before them. Neither the registry nor the numbers of the lines have a part in it.
-/

namespace UnitConversion.UnitsFile

open Text

namespace Declaration

/-- The unit that the declaration describes, if its required fields are set. -/
def unit? (declaration : Declaration) : Option MeasureUnit :=
  match declaration.quantity?, declaration.factor? with
  | some quantity, some factor =>
    (declaration.unit (joinNames [declaration.name] declaration.aliases).1 quantity factor).toOption
  | _, _ => none

/-- The declaration with a line that gives a key and values for its field. -/
def assign (limit : DigitLimit) (declaration : Declaration) (key : String) (values : List String) :
    Except TooManyDigits Declaration :=
  match Field.ofKey? key with
  | none => .ok declaration
  | some field =>
    if declaration.sets field then .ok declaration
    else
      match field.read limit key values with
      | .accepted setting => .ok { declaration with settings := declaration.settings ++ [setting] }
      | .refused _ => .ok declaration
      | .overlong failure => .error failure

/-- What is open after a line that gives a key and values; nothing if nothing was. -/
def assignOpen (limit : DigitLimit) (current : Option Declaration) (key : String)
    (values : List String) : Except TooManyDigits (Option Declaration) :=
  match current with
  | none => .ok none
  | some declaration => (declaration.assign limit key values).map some

/-- The declaration without the number of its header's line. -/
def unnumbered (declaration : Declaration) : Declaration := { declaration with line := 0 }

end Declaration

namespace Reader

/-- The declaration that is open, without the number of its header's line. -/
def openDeclaration (reader : Reader) : Option Declaration :=
  reader.current.map Declaration.unnumbered

@[simp]
theorem registry_warn (reader : Reader) (line : Nat) (problem : Problem) :
    (reader.warn line problem).registry = reader.registry := rfl

@[simp]
theorem current_warn (reader : Reader) (line : Nat) (problem : Problem) :
    (reader.warn line problem).current = reader.current := rfl

/-- Warnings that are reported one after another change neither the registry nor what is open. -/
theorem registry_current_foldl_warn {α : Type} (reader : Reader) (line : Nat)
    (problem : α → Problem) (items : List α) :
    let warned := items.foldl (fun reader item => reader.warn line (problem item)) reader
    warned.registry = reader.registry ∧ warned.current = reader.current := by
  induction items generalizing reader with
  | nil => exact ⟨rfl, rfl⟩
  | cons item items ih => exact ih (reader.warn line (problem item))

/-- A unit is added to the registry, whatever is reported about its names, and what is open stays
open. -/
theorem addUnit_effect (reader : Reader) (declaration : Declaration) (unit : MeasureUnit) :
    (reader.addUnit declaration unit).registry = (reader.registry.add unit).1 ∧
      (reader.addUnit declaration unit).current = reader.current := by
  unfold addUnit Registry.add
  cases hconflicts : (reader.registry.conflicts unit).isEmpty <;>
    cases hstored : unit.restrictNames? fun name => !reader.registry.contains name <;>
    simp [hconflicts, hstored]

/-- Declaring a unit adds it, if the description is that of a unit, and what is open stays open. -/
theorem declareUnit_effect (reader : Reader) (declaration : Declaration) (quantity : Quantity)
    (factor : Float) :
    (reader.declareUnit declaration quantity factor).registry =
        reader.registry.addAll (declaration.unit
          (Declaration.joinNames [declaration.name] declaration.aliases).1
          quantity factor).toOption.toList ∧
      (reader.declareUnit declaration quantity factor).current = reader.current := by
  unfold declareUnit
  obtain ⟨names, repeated⟩ := Declaration.joinNames [declaration.name] declaration.aliases
  obtain ⟨hregistry, hopen⟩ := registry_current_foldl_warn reader declaration.line
    (.repeatedName declaration.name) repeated
  dsimp only at hregistry hopen ⊢
  cases declaration.unit names quantity factor with
  | error defect => simpa [Except.toOption] using And.intro hregistry hopen
  | ok unit =>
    obtain ⟨hadded, hkept⟩ := addUnit_effect (List.foldl
      (fun reader name => reader.warn declaration.line (.repeatedName declaration.name name))
      reader repeated) declaration unit
    rw [hadded, hkept, hregistry, hopen]
    exact ⟨rfl, rfl⟩

/-- Closing the open declaration adds its unit, if it describes one, and leaves nothing open. -/
theorem finish_effect (reader : Reader) :
    reader.finish.registry =
        reader.registry.addAll (reader.openDeclaration.bind Declaration.unit?).toList ∧
      reader.finish.current = none := by
  unfold finish openDeclaration
  cases hcurrent : reader.current with
  | none => simp [hcurrent]
  | some declaration =>
    rw [Option.map_some, Option.bind_some]
    change _ = reader.registry.addAll (Declaration.unit? declaration).toList ∧ _
    unfold Declaration.unit?
    dsimp only
    cases declaration.quantity? with
    | none => exact ⟨rfl, rfl⟩
    | some quantity =>
      cases declaration.factor? with
      | none => exact ⟨rfl, rfl⟩
      | some factor =>
        exact declareUnit_effect { reader with current := none } declaration quantity factor

@[simp]
theorem registry_finish (reader : Reader) : reader.finish.registry =
    reader.registry.addAll (reader.openDeclaration.bind Declaration.unit?).toList :=
  reader.finish_effect.1

@[simp]
theorem current_finish (reader : Reader) : reader.finish.current = none := reader.finish_effect.2

/-- A line that gives a key and values leaves the registry alone and bears on the open declaration
alone. -/
theorem assign_effect (limit : DigitLimit) (reader : Reader) (line : Nat) (key : String)
    (values : List String) :
    (reader.assign limit line key values).map
        (fun after => (after.registry, after.openDeclaration)) =
      (Declaration.assignOpen limit reader.openDeclaration key values).map
        (reader.registry, ·) := by
  unfold assign openDeclaration
  cases hcurrent : reader.current with
  | none => simp [Declaration.assignOpen, hcurrent, Except.map]
  | some declaration =>
    simp only [Option.map_some, Declaration.assignOpen, Declaration.assign]
    cases Field.ofKey? key with
    | none => simp [hcurrent, Except.map]
    | some field =>
      change _ = Except.map _ (Except.map some (if declaration.sets field then _ else _))
      by_cases hset : declaration.sets field = true
      · simp [hset, hcurrent, Except.map]
      · simp only [hset]
        cases field.read limit key values <;>
          simp [hcurrent, Except.map, Declaration.unnumbered]

end Reader

/-- The units that lines declare, given the declaration that is open before them. A declaration
counts when it is closed: by a header, broken or not, or by the end of the lines. -/
def declared (limit : DigitLimit) : Option Declaration → List String →
    Except TooManyDigits (List MeasureUnit)
  | current, [] => .ok (current.bind Declaration.unit?).toList
  | current, text :: rest =>
    match Entry.ofLine text with
    | .blank | .faulty _ => declared limit current rest
    | .brokenHeader _ =>
      (declared limit none rest).map ((current.bind Declaration.unit?).toList ++ ·)
    | .header name =>
      (declared limit (some ⟨name, 0, []⟩) rest).map ((current.bind Declaration.unit?).toList ++ ·)
    | .assignment key values => do
      let current ← Declaration.assignOpen limit current key values
      declared limit current rest

/-- Units that are declared behind others are added behind them. -/
theorem map_append_map_addAll (registry : Registry) (closed : List MeasureUnit)
    (later : Except TooManyDigits (List MeasureUnit)) :
    (later.map (closed ++ ·)).map registry.addAll = later.map (registry.addAll closed).addAll := by
  cases later with
  | error failure => rfl
  | ok units => simp [Except.map, Registry.addAll_append]

/-- What reading lines to their end does to the registry. -/
theorem registry_feedLines (limit : DigitLimit) (reader : Reader) (line : Nat)
    (lines : List String) :
    (reader.feedLines limit line lines).map (·.finish.registry) =
      (declared limit reader.openDeclaration lines).map reader.registry.addAll := by
  induction lines generalizing reader line with
  | nil => simp [Reader.feedLines, declared, Except.map]
  | cons text rest ih =>
    unfold Reader.feedLines declared Reader.feed
    cases Entry.ofLine text with
    | blank => exact ih reader (line + 1)
    | faulty problem => exact ih (reader.warn line problem) (line + 1)
    | brokenHeader problem =>
      have hclosed : (reader.finish.warn line problem).openDeclaration = none := by
        simp [Reader.openDeclaration]
      have h := ih (reader.finish.warn line problem) (line + 1)
      rw [hclosed, Reader.registry_warn, reader.registry_finish] at h
      dsimp only
      rw [map_append_map_addAll]
      exact h
    | header name =>
      have h := ih { reader.finish with current := some ⟨name, line, []⟩ } (line + 1)
      rw [reader.registry_finish] at h
      dsimp only
      rw [map_append_map_addAll]
      exact h
    | assignment key values =>
      have hstep := reader.assign_effect limit line key values
      dsimp only [Reader.take]
      cases hafter : reader.assign limit line key values with
      | error failure =>
        cases hopen : Declaration.assignOpen limit reader.openDeclaration key values with
        | error other =>
          obtain rfl : failure = other := by simpa [hafter, hopen, Except.map] using hstep
          rfl
        | ok current => simp [hafter, hopen, Except.map] at hstep
      | ok after =>
        cases hopen : Declaration.assignOpen limit reader.openDeclaration key values with
        | error other => simp [hafter, hopen, Except.map] at hstep
        | ok current =>
          obtain ⟨hregistry, hcurrent⟩ : after.registry = reader.registry ∧
              after.openDeclaration = current := by
            simpa [hafter, hopen, Except.map] using hstep
          have h := ih after (line + 1)
          rw [hregistry, hcurrent] at h
          exact h

/-- The registry of a file holds the units that its lines declare, under their free names. -/
theorem load_registry (limit : DigitLimit) (lines : List String) :
    (load limit lines).map Loaded.registry =
      (declared limit none lines).map Registry.empty.addAll := by
  have h := registry_feedLines limit Reader.initial 1 lines
  change _ = (declared limit none lines).map Registry.empty.addAll at h
  rw [← h]
  unfold load
  cases Reader.initial.feedLines limit 1 lines <;> rfl

end UnitConversion.UnitsFile

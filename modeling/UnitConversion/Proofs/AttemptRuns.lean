import Mathlib.Logic.Basic
import UnitConversion.Resolution

/-!
# Running attempts

What an attempt does to the memory that it starts from: the laws that take sequences apart, and the
outcome of resolving one word. A word is resolved completely or not at all: when it fails, what is
recalled stays as it was.
-/

namespace UnitConversion

namespace Attempt

variable {α β : Type}

/-- Run an attempt from a memory. -/
def runFrom (attempt : Attempt α) (memory : Memory) : Except ConversionError α × Memory :=
  (ExceptT.run attempt).run memory

/-- A request starts with no words resolved. -/
theorem runOn_eq_runFrom (attempt : Attempt α) (remembered : Recall) :
    attempt.runOn remembered = attempt.runFrom ⟨remembered, []⟩ := rfl

@[simp]
theorem runFrom_pure (value : α) (memory : Memory) :
    (pure value : Attempt α).runFrom memory = (.ok value, memory) := rfl

/-- The second step starts where the first one ends, unless that one fails. -/
theorem runFrom_bind (first : Attempt α) (next : α → Attempt β) (memory : Memory) :
    (first >>= next).runFrom memory =
      match first.runFrom memory with
      | (.ok value, after) => (next value).runFrom after
      | (.error error, after) => (.error error, after) := by
  unfold runFrom
  rw [ExceptT.run_bind, StateT.run_bind]
  cases (ExceptT.run first).run memory with
  | mk outcome after => cases outcome <;> rfl

/-- A sequence of two steps succeeds when the first one does and the second one does from there. -/
theorem runFrom_bind_eq_ok {first : Attempt α} {next : α → Attempt β} {memory after : Memory}
    {result : β} :
    (first >>= next).runFrom memory = (.ok result, after) ↔
      ∃ value between, first.runFrom memory = (.ok value, between) ∧
        (next value).runFrom between = (.ok result, after) := by
  rw [runFrom_bind]
  cases h : first.runFrom memory with
  | mk outcome between =>
    cases outcome with
    | error error => simp
    | ok value =>
      constructor
      · intro hnext
        exact ⟨value, between, rfl, hnext⟩
      · rintro ⟨other, _, hsame, hnext⟩
        cases hsame
        exact hnext

@[simp]
theorem runFrom_check (result : Except ConversionError α) (memory : Memory) :
    (check result).runFrom memory = (result, memory) := rfl

@[simp]
theorem runFrom_recalled (memory : Memory) :
    recalled.runFrom memory = (.ok memory.remembered, memory) := rfl

/-- The attempt keeps a property of what is recalled, also when it fails. -/
def Keeps (holds : Recall → Prop) (attempt : Attempt α) : Prop :=
  ∀ memory, holds memory.remembered → holds (attempt.runFrom memory).2.remembered

variable {holds : Recall → Prop}

theorem keeps_pure (value : α) : Keeps holds (pure value : Attempt α) := fun _ h => h

theorem keeps_check (result : Except ConversionError α) : Keeps holds (check result) :=
  fun _ h => h

/-- A sequence of two steps keeps what both steps keep. -/
theorem Keeps.bind {first : Attempt α} {next : α → Attempt β} (hfirst : Keeps holds first)
    (hnext : ∀ value, Keeps holds (next value)) : Keeps holds (first >>= next) := by
  intro memory h
  have hbetween := hfirst memory h
  rw [runFrom_bind]
  cases hrun : first.runFrom memory with
  | mk outcome between =>
    rw [hrun] at hbetween
    cases outcome with
    | error error => exact hbetween
    | ok value => exact hnext value between hbetween

/-- Steps for the words of a list keep what each step keeps. -/
theorem Keeps.mapM {step : String → Attempt α} (hstep : ∀ word, Keeps holds (step word))
    (words : List String) : Keeps holds (words.mapM step) := by
  induction words with
  | nil => exact keeps_pure []
  | cons word words ih =>
    rw [List.mapM_cons]
    exact (hstep word).bind fun value => ih.bind fun values => keeps_pure (value :: values)

/-- Steps for the words of a list succeed when the first one does and the others do from there. -/
theorem runFrom_mapM_cons_eq_ok {step : String → Attempt α} {word : String} {words : List String}
    {memory after : Memory} {results : List α} :
    ((word :: words).mapM step).runFrom memory = (.ok results, after) ↔
      ∃ first between rest, (step word).runFrom memory = (.ok first, between) ∧
        (words.mapM step).runFrom between = (.ok rest, after) ∧ results = first :: rest := by
  rw [List.mapM_cons, runFrom_bind_eq_ok]
  constructor
  · rintro ⟨first, between, hfirst, hlater⟩
    obtain ⟨rest, last, hrest, hpure⟩ := runFrom_bind_eq_ok.mp hlater
    simp only [runFrom_pure, Prod.mk.injEq, Except.ok.injEq] at hpure
    rw [hpure.2] at hrest
    exact ⟨first, between, rest, hfirst, hrest, hpure.1.symm⟩
  · rintro ⟨first, between, rest, hfirst, hrest, rfl⟩
    exact ⟨first, between, hfirst, runFrom_bind_eq_ok.mpr ⟨rest, after, hrest, rfl⟩⟩

/-- Where the attempt succeeds from a memory, the other one succeeds from every memory with the same
result, and leaves the same behind when it starts from the same. -/
def Follows (memory : Memory) (attempt other : Attempt α) : Prop :=
  ∀ result last, attempt.runFrom memory = (.ok result, last) →
    ∀ start, ∃ finish, other.runFrom start = (.ok result, finish) ∧
      (start.remembered = memory.remembered → finish.remembered = last.remembered)

/-- A step that needs no memory follows itself. -/
theorem follows_check (memory : Memory) (result : Except ConversionError α) :
    Follows memory (check result) (check result) := by
  intro value last h start
  simp only [runFrom_check, Prod.mk.injEq] at h
  exact ⟨start, by rw [runFrom_check, h.1], fun hsame => by rw [hsame, h.2]⟩

/-- So does a step that only returns a value. -/
theorem follows_pure (memory : Memory) (value : α) :
    Follows memory (pure value) (pure value) := follows_check memory (.ok value)

/-- A sequence of two steps is followed when both steps are. -/
theorem Follows.bind {memory : Memory} {first other : Attempt α} {next later : α → Attempt β}
    (hfirst : Follows memory first other)
    (hnext : ∀ value between, first.runFrom memory = (.ok value, between) →
      Follows between (next value) (later value)) :
    Follows memory (first >>= next) (other >>= later) := by
  intro result last h start
  obtain ⟨value, between, hvalue, hlast⟩ := runFrom_bind_eq_ok.mp h
  obtain ⟨middle, hmiddle, hsame⟩ := hfirst value between hvalue start
  obtain ⟨finish, hfinish, hend⟩ := hnext value between hvalue result last hlast middle
  exact ⟨finish, runFrom_bind_eq_ok.mpr ⟨value, middle, hmiddle, hfinish⟩,
    fun hstart => hend (hsame hstart)⟩

end Attempt

open Attempt

/-- The value that a word stands for, given what is recalled, and what is recalled after it. -/
def valueOf (remembered : Recall) (token : String) : Except ConversionError (Float × Recall) :=
  match ValueExpression.read token with
  | .error error => .error error
  | .ok (.literal value) => .ok (value, remembered.rememberValue value)
  | .ok .recalled =>
    match remembered.value with
    | some value => .ok (value, remembered)
    | none => .error (.recallUnset Slot.value.name)

/-- Resolving a value changes what is recalled when it succeeds, and nothing when it fails. -/
theorem runFrom_resolveValue (token : String) (memory : Memory) :
    (resolveValue token).runFrom memory =
      match valueOf memory.remembered token with
      | .ok (value, remembered) => (.ok value, { memory with remembered })
      | .error error => (.error error, memory) := by
  unfold resolveValue valueOf
  rw [runFrom_bind, runFrom_check]
  cases ValueExpression.read token with
  | error error => rfl
  | ok expression =>
    cases expression with
    | literal value => rfl
    | recalled =>
      dsimp only
      rw [runFrom_bind, runFrom_recalled]
      dsimp only
      cases memory.remembered.value <;> rfl

/-- The unit that a place holds, with an optional metric prefix. -/
def recalledUnitOf (slot : Slot) (remembered : Recall) (metric : Option MetricPrefix) :
    Except ConversionError (ResolvedUnit × Recall) :=
  match remembered.unitAt slot with
  | .error error => .error error
  | .ok none => .error (.recallUnset slot.name)
  | .ok (some unit) =>
    .ok (⟨unit.unit, (prefixParts metric).1, (prefixParts metric).2, unit.typedName⟩, remembered)

/-- The unit of a name, with an optional metric prefix, and what is recalled after it was found. -/
def foundUnitOf (registry : Registry) (slot : Slot) (remembered : Recall) (name : String)
    (metric : Option MetricPrefix) : Except ConversionError (ResolvedUnit × Recall) :=
  match registry.lookup name with
  | none => .error (.unknownUnit name (some slot.name))
  | some unit =>
    (remembered.remember slot unit name).map fun remembered =>
      (⟨unit, (prefixParts metric).1, (prefixParts metric).2, name⟩, remembered)

/-- The unit that a word stands for, given what is recalled, and what is recalled after it. -/
def unitOf (registry : Registry) (slot : Slot) (remembered : Recall) (token : String) :
    Except ConversionError (ResolvedUnit × Recall) :=
  match UnitExpression.read token with
  | .error error => .error error
  | .ok .recalled => recalledUnitOf slot remembered none
  | .ok (.prefixedRecall metric) => recalledUnitOf slot remembered (some metric)
  | .ok (.literal name) => foundUnitOf registry slot remembered name none
  | .ok (.prefixed metric name) => foundUnitOf registry slot remembered name (some metric)

theorem runFrom_recallUnit (slot : Slot) (metric : Option MetricPrefix) (memory : Memory) :
    (recallUnit slot metric).runFrom memory =
      match recalledUnitOf slot memory.remembered metric with
      | .ok (resolved, remembered) => (.ok resolved, { memory with remembered })
      | .error error => (.error error, memory) := by
  unfold recallUnit recalledUnitOf
  rw [runFrom_bind, runFrom_recalled]
  dsimp only
  rw [runFrom_bind, runFrom_check]
  cases memory.remembered.unitAt slot with
  | error error => rfl
  | ok held => cases held <;> rfl

theorem runFrom_lookupUnit (registry : Registry) (slot : Slot) (name : String)
    (metric : Option MetricPrefix) (memory : Memory) :
    (lookupUnit registry slot name metric).runFrom memory =
      match foundUnitOf registry slot memory.remembered name metric with
      | .ok (resolved, remembered) => (.ok resolved, { memory with remembered })
      | .error error => (.error error, memory) := by
  unfold lookupUnit foundUnitOf
  cases registry.lookup name with
  | none => rfl
  | some unit =>
    dsimp only
    rw [runFrom_bind, runFrom_recalled]
    dsimp only
    rw [runFrom_bind, runFrom_check]
    cases memory.remembered.remember slot unit name <;> rfl

/-- Resolving a unit changes what is recalled and is reported when it succeeds, and changes nothing
when it fails. -/
theorem runFrom_resolveUnit (registry : Registry) (slot : Slot) (token : String)
    (memory : Memory) :
    (resolveUnit registry slot token).runFrom memory =
      match unitOf registry slot memory.remembered token with
      | .ok (resolved, remembered) =>
        (.ok resolved, ⟨remembered, memory.resolutions ++ [⟨slot, token, resolved⟩]⟩)
      | .error error => (.error error, memory) := by
  unfold resolveUnit unitOf
  rw [runFrom_bind, runFrom_check]
  cases UnitExpression.read token with
  | error error => rfl
  | ok expression =>
    dsimp only
    rw [runFrom_bind]
    cases expression with
    | recalled =>
      simp only [resolveExpression, runFrom_recallUnit]
      cases recalledUnitOf slot memory.remembered none <;> rfl
    | prefixedRecall metric =>
      simp only [resolveExpression, runFrom_recallUnit]
      cases recalledUnitOf slot memory.remembered (some metric) <;> rfl
    | literal name =>
      simp only [resolveExpression, runFrom_lookupUnit]
      cases foundUnitOf registry slot memory.remembered name none <;> rfl
    | prefixed metric name =>
      simp only [resolveExpression, runFrom_lookupUnit]
      cases foundUnitOf registry slot memory.remembered name (some metric) <;> rfl

/-- What a value was resolved to is what its word stands for where it was resolved. -/
theorem valueOf_of_runFrom {word : String} {memory last : Memory} {value : Float}
    (h : (resolveValue word).runFrom memory = (.ok value, last)) :
    valueOf memory.remembered word = .ok (value, last.remembered) := by
  rw [runFrom_resolveValue] at h
  cases hvalue : valueOf memory.remembered word with
  | error error => simp [hvalue] at h
  | ok result =>
    simp only [hvalue, Prod.mk.injEq, Except.ok.injEq] at h
    rw [← h.1, ← h.2]

/-- What a unit was resolved to is what its word stands for where it was resolved. -/
theorem unitOf_of_runFrom {registry : Registry} {slot : Slot} {word : String}
    {memory last : Memory} {resolved : ResolvedUnit}
    (h : (resolveUnit registry slot word).runFrom memory = (.ok resolved, last)) :
    unitOf registry slot memory.remembered word = .ok (resolved, last.remembered) := by
  rw [runFrom_resolveUnit] at h
  cases hunit : unitOf registry slot memory.remembered word with
  | error error => simp [hunit] at h
  | ok result =>
    simp only [hunit, Prod.mk.injEq, Except.ok.injEq] at h
    rw [← h.1, ← h.2]

end UnitConversion

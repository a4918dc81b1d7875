import Mathlib.Logic.Basic

/-!
# Outcomes of steps that may fail

A sequence of steps succeeds when each step does. These laws take such sequences apart.
-/

namespace UnitConversion.Outcome

universe u

variable {ε α β : Type u}

/-- A sequence of two steps succeeds when the first step does and the second one does after it. -/
theorem bind_eq_ok {first : Except ε α} {second : α → Except ε β} {result : β} :
    (first >>= second) = .ok result ↔ ∃ value, first = .ok value ∧ second value = .ok result := by
  cases first with
  | error failure => simp [bind, Except.bind]
  | ok value => simp [bind, Except.bind]

/-- A sequence of two steps fails when the first step does, or the second one after it. -/
theorem bind_eq_error {first : Except ε α} {second : α → Except ε β} {failure : ε} :
    (first >>= second) = .error failure ↔
      first = .error failure ∨ ∃ value, first = .ok value ∧ second value = .error failure := by
  cases first with
  | error failure => simp [bind, Except.bind]
  | ok value => simp [bind, Except.bind]

/-- A step whose value is worked on succeeds when the step does. -/
theorem map_eq_ok {step : Except ε α} {work : α → β} {result : β} :
    step.map work = .ok result ↔ ∃ value, step = .ok value ∧ work value = result := by
  cases step with
  | error failure => simp [Except.map]
  | ok value => simp [Except.map]

/-- A step that only returns a value succeeds with that value. -/
theorem pure_eq_ok {value result : α} :
    (pure value : Except ε α) = .ok result ↔ value = result := by
  simp [pure, Except.pure]

/-- A step that fails does not succeed. -/
theorem throw_ne_ok {failure : ε} {result : α} : (throw failure : Except ε α) ≠ .ok result := by
  simp [throw, throwThe, MonadExceptOf.throw]

end UnitConversion.Outcome

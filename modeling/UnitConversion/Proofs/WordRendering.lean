import UnitConversion.Proofs.LineMemory

/-!
# Results rendered from words

A result is rendered from what its words stood for when they were resolved, or from the words
themselves and what is recalled afterwards. Both give the same text. What a word stood for can still
be told afterwards, because a literal says it and a recall changes nothing, and because the words
that are resolved later leave its place alone.
-/

namespace UnitConversion

open UnitExpression

namespace Rendering

variable {registry : Registry} {remembered last after : Recall} {word : String}

/-- The number to show for a word that was resolved is the value that it was resolved to, as long as
this is the value used last. -/
theorem displayNumber?_of_valueOf {value : Float}
    (h : valueOf remembered word = .ok (value, last)) (hkept : after.value = last.value) :
    displayNumber? word (some after) = some value := by
  unfold displayNumber?
  by_cases hrecall : word = ValueExpression.recallText
  · subst hrecall
    rw [valueOf_recallText] at h
    cases hvalue : remembered.value with
    | none => simp [hvalue] at h
    | some number =>
      simp only [hvalue, Except.ok.injEq, Prod.mk.injEq] at h
      rw [if_pos rfl, Option.bind_some, hkept, ← h.2, hvalue, h.1]
  · rw [if_neg hrecall]
    unfold valueOf ValueExpression.read at h
    rw [if_neg hrecall] at h
    cases hnumber : Numeric.readNumber word with
    | error error => simp [hnumber] at h
    | ok number =>
      rw [hnumber] at h
      dsimp only at h ⊢
      cases hfinite : number.isFinite with
      | false => simp [hfinite] at h
      | true =>
        simp only [hfinite, if_true, Except.ok.injEq, Prod.mk.injEq] at h
        rw [if_pos rfl, h.1]

/-- The text to show for a word that was resolved is that of the value. -/
theorem displayValue_of_valueOf {value : Float} (h : valueOf remembered word = .ok (value, last))
    (hkept : after.value = last.value) (precision : Precision) :
    displayValue word (some after) precision = formatNumber precision value := by
  unfold displayValue
  rw [displayNumber?_of_valueOf h hkept]

/-- A recalled unit is shown by the name that it is recalled by, behind its metric prefix. -/
theorem displayName_recallOf {metric : Option MetricPrefix} (h : read word = .ok (recallOf metric))
    (recalled : RecalledUnit) :
    displayName word (some recalled) = (prefixParts metric).2 ++ recalled.displayName := by
  unfold displayName
  rw [h]
  cases metric with
  | none => exact String.empty_append.symm
  | some metric => rfl

/-- A named unit is shown by that name behind its metric prefix, whatever is recalled. -/
theorem displayName_literalOf {metric : Option MetricPrefix} {name : String}
    (h : read word = .ok (literalOf metric name)) (recalled : Option RecalledUnit) :
    displayName word recalled = (prefixParts metric).2 ++ name := by
  unfold displayName
  rw [h]
  cases metric with
  | none => cases recalled <;> exact String.empty_append.symm
  | some metric => cases recalled <;> rfl

/-- The name to show for a word that was resolved is that of the unit it was resolved to, as long as
its place holds what the word left there. -/
theorem displayName_of_unitOf {slot : Slot} {resolved : ResolvedUnit}
    (h : unitOf registry slot remembered word = .ok (resolved, last)) :
    displayName word (last.held slot) = resolved.displayName := by
  cases hread : read word with
  | error error => simp [unitOf, hread] at h
  | ok expression =>
    obtain ⟨metric, ⟨-, rfl⟩ | ⟨name, hname, rfl⟩⟩ := read_eq_ok hread
    · rw [unitOf_of_recallOf hread] at h
      obtain ⟨recalled, hheld, rfl, rfl⟩ := recalledUnitOf_eq_ok h
      rw [hheld, displayName_recallOf hread]
      rfl
    · rw [unitOf_of_literalOf hread] at h
      obtain ⟨unit, -, -, rfl⟩ := foundUnitOf_eq_ok h
      have hempty : name.isEmpty = false := by simpa using hname
      rw [displayName_literalOf hread]
      simp [ResolvedUnit.displayName, hempty]

end Rendering

open Attempt

/-- The words of a request are resolved one after another, and behind the last one its place and
those of the words before it hold what these words left there. -/
theorem Request.resolved_of_convert {registry : Registry} {value input output : String}
    {memory last : Memory} {conversion : FinishedConversion}
    (h : (Request.convert registry value input output).runFrom memory = (.ok conversion, last)) :
    ∃ afterValue afterInput,
      valueOf memory.remembered value = .ok (conversion.value, afterValue) ∧
        unitOf registry .input afterValue input = .ok (conversion.source, afterInput) ∧
        unitOf registry .output afterInput output = .ok (conversion.target, last.remembered) ∧
        last.remembered.value = afterValue.value ∧
        last.remembered.input = afterInput.input := by
  obtain ⟨number, afterValue, hvalue, hrest⟩ := runFrom_bind_eq_ok.mp h
  obtain ⟨source, afterInput, hinput, hlater⟩ := runFrom_bind_eq_ok.mp hrest
  obtain ⟨target, afterOutput, houtput, hend⟩ := runFrom_bind_eq_ok.mp hlater
  obtain ⟨result, final, hcheck, hpure⟩ := runFrom_bind_eq_ok.mp hend
  simp only [runFrom_check, runFrom_pure, Prod.mk.injEq, Except.ok.injEq] at hcheck hpure
  obtain ⟨rfl, rfl⟩ := hpure
  obtain ⟨-, rfl⟩ := hcheck
  have hsource := unitOf_of_runFrom hinput
  have htarget := unitOf_of_runFrom houtput
  have hkeptInput := Recall.noteAll_input registry afterValue.remembered input
  have hkeptOutput := Recall.noteAll_output registry afterInput.remembered output
  rw [← Recall.eq_noteAll_of_unitOf hsource] at hkeptInput
  rw [← Recall.eq_noteAll_of_unitOf htarget] at hkeptOutput
  exact ⟨afterValue.remembered, afterInput.remembered, valueOf_of_runFrom hvalue, hsource, htarget,
    hkeptOutput.1.trans hkeptInput.1, hkeptOutput.2⟩

/-- The text of a result is the same, whether it is rendered from the finished conversion or from
the words that asked for it and what is recalled once they are resolved. -/
theorem Session.formatResult_eq_format {session : Session} {value input output : String}
    {conversion : FinishedConversion}
    (h : (session.perform (Request.convert session.registry value input output)).1 =
      .ok conversion) :
    Rendering.formatResult session.style conversion.result value input output
        (some (session.perform
          (Request.convert session.registry value input output)).2.1.remembered)
        session.precision =
      session.format conversion := by
  have hrun : (Request.convert session.registry value input output).runFrom
      ⟨session.remembered, []⟩ = (.ok conversion,
        ((Request.convert session.registry value input output).runOn session.remembered).2) :=
    Prod.ext h rfl
  obtain ⟨afterValue, afterInput, hvalue, hinput, houtput, hkeptValue, hkeptInput⟩ :=
    Request.resolved_of_convert hrun
  unfold Rendering.formatResult Session.format FinishedConversion.render Session.perform
  dsimp only [Option.bind_some]
  rw [Rendering.displayValue_of_valueOf hvalue hkeptValue, hkeptInput]
  have hinputName := Rendering.displayName_of_unitOf hinput
  have houtputName := Rendering.displayName_of_unitOf houtput
  dsimp only [Recall.held] at hinputName houtputName
  rw [hinputName, houtputName]

/-- A session in which a line was converted. -/
def metreSession : Session :=
  ((Console.start (.start metreRegistry .verbose .standard)).takeAll [.line "3 m metre"]).session

/-- A recalled value, a name with an escape behind a metric prefix, and a recalled unit behind
one. -/
theorem Session.formatResult_eq_format_metres : ∃ conversion,
    (metreSession.perform (Request.convert metreSession.registry ":" "_c\\m" "_k:")).1 =
      .ok conversion ∧
    Rendering.formatResult metreSession.style conversion.result ":" "_c\\m" "_k:"
        (some (metreSession.perform
          (Request.convert metreSession.registry ":" "_c\\m" "_k:")).2.1.remembered)
        metreSession.precision =
      metreSession.format conversion := by
  have hok : (metreSession.perform
      (Request.convert metreSession.registry ":" "_c\\m" "_k:")).1.isOk = true := by
    decide +kernel
  cases h : (metreSession.perform
      (Request.convert metreSession.registry ":" "_c\\m" "_k:")).1 with
  | error error =>
    rw [h] at hok
    contradiction
  | ok conversion =>
    exact ⟨conversion, rfl, Session.formatResult_eq_format h⟩

end UnitConversion

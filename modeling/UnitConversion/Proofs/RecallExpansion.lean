import UnitConversion.Proofs.RecallInvariant
import UnitConversion.Session

/-!
# What recalls stand for

A recall stands for what could be written in its place: a value for a literal of it, a unit for the
name under which it is remembered. What a recall stands for is settled when its word is resolved, so
the words of a line are followed through what is recalled before each of them.
-/

namespace UnitConversion

open Text UnitExpression

/-- A word for a value and the word without a recall that stands for it. -/
inductive ExpandsValue (held : Option Float) : String → String → Prop
  /-- The recall is replaced by any literal of the recalled value. -/
  | ofRecall {value : Float} {literal : String} (remembers : held = some value)
    (writes : WritesValue literal value) : ExpandsValue held ValueExpression.recallText literal
  /-- Any other word stands for itself. -/
  | self {word : String} (other : word ≠ ValueExpression.recallText) : ExpandsValue held word word

/-- A word for a unit and the word without a recall that stands for it. -/
inductive ExpandsUnit (held : Option RecalledUnit) : String → String → Prop
  /-- The recall is replaced by the name of the recalled unit, its metric prefix kept. -/
  | ofRecall {recalled : RecalledUnit} (metric : Option MetricPrefix)
    (remembers : held = some recalled) :
    ExpandsUnit held (recallWord metric) (literalWord metric recalled.typedName)
  /-- Any other word stands for itself. -/
  | self {word : String} (other : ∀ metric, word ≠ recallWord metric) : ExpandsUnit held word word

namespace Recall

/-- A word in a place and the word without a recall that stands for it. -/
def Expands (remembered : Recall) : Slot → String → String → Prop
  | .value => ExpandsValue remembered.value
  | .input => ExpandsUnit remembered.input
  | .output => ExpandsUnit remembered.output

/-- What is recalled after a word is resolved. -/
def after (registry : Registry) (remembered : Recall) (slot : Slot) (word : String) : Recall :=
  match slot with
  | .value => ((resolveValue word).runOn remembered).2.remembered
  | slot => ((resolveUnit registry slot word).runOn remembered).2.remembered

/-- In the place of a unit a word stands for a unit. -/
theorem expands_iff_expandsUnit {remembered : Recall} {slot : Slot} (h : slot ≠ .value)
    {word literal : String} :
    remembered.Expands slot word literal ↔ ExpandsUnit (remembered.held slot) word literal := by
  cases slot with
  | value => exact absurd rfl h
  | input => exact Iff.rfl
  | output => exact Iff.rfl

/-- What is recalled after words in the same place are resolved. -/
def afterAll (registry : Registry) (slot : Slot) (remembered : Recall) (words : List String) :
    Recall :=
  words.foldl (fun remembered word => remembered.after registry slot word) remembered

/-- Words in the same place and the words that stand for them, each where it is resolved. -/
inductive ExpandsAll (registry : Registry) (slot : Slot) :
    Recall → List String → List String → Prop
  /-- Nothing stands for no words. -/
  | nil {remembered : Recall} : ExpandsAll registry slot remembered [] []
  /-- The first word is resolved before the others. -/
  | cons {remembered : Recall} {word literal : String} {words literals : List String}
    (first : remembered.Expands slot word literal)
    (rest : ExpandsAll registry slot (remembered.after registry slot word) words literals) :
    ExpandsAll registry slot remembered (word :: words) (literal :: literals)

/-- The words of a line and the words that stand for them: those of the values are resolved first,
then that of the input unit, then those of the output units. -/
def ExpandsLine (registry : Registry) (remembered : Recall) (words literals : List String) : Prop :=
  ∃ split values input outputs, Request.split words = .ok split ∧
    literals = values ++ input :: outputs ∧
    ExpandsAll registry .value remembered split.values values ∧
    (remembered.afterAll registry .value split.values).Expands .input split.input input ∧
    ExpandsAll registry .output
      ((remembered.afterAll registry .value split.values).after registry .input split.input)
      split.outputs outputs

end Recall

variable {registry : Registry} {remembered : Recall}

/-- A recalled value is resolved to what is remembered, without a change to that. -/
theorem valueOf_recallText (remembered : Recall) : valueOf remembered ValueExpression.recallText =
    match remembered.value with
    | some value => .ok (value, remembered)
    | none => .error (.recallUnset Slot.value.name) := rfl

/-- A word that is no recall is resolved alike whatever is remembered. -/
theorem valueOf_of_ne {word : String} (h : word ≠ ValueExpression.recallText) {value : Float}
    {last : Recall} (hvalue : valueOf remembered word = .ok (value, last)) (start : Recall) :
    valueOf start word = .ok (value, start.rememberValue value) := by
  unfold valueOf at hvalue ⊢
  unfold ValueExpression.read at hvalue ⊢
  rw [if_neg h] at hvalue ⊢
  cases hnumber : Numeric.readNumber word with
  | error fault => simp [hnumber] at hvalue
  | ok number =>
    by_cases hfinite : number.isFinite = true
    · simp only [hnumber, hfinite, if_true, Except.ok.injEq, Prod.mk.injEq] at hvalue ⊢
      rw [hvalue.1]
      exact ⟨rfl, rfl⟩
    · simp [hnumber, hfinite] at hvalue

/-- A word for a recall is no number. -/
theorem readNumber_recallWord (metric : Option MetricPrefix) (value : Float) :
    Numeric.readNumber (recallWord metric) ≠ .ok value := by
  intro h
  have hnone : ∀ metric, (recallWord metric).toList.any isBlank = false ∧
      Numeric.isLiteral (recallWord metric) = false := by
    intro metric
    cases metric with
    | none => decide
    | some metric => cases metric <;> decide
  have hliteral := Numeric.isLiteral_of_readNumber (hnone metric).1 h
  simp [(hnone metric).2] at hliteral

/-- A literal of a finite value is resolved to the value. -/
theorem valueOf_of_writesValue {literal : String} {value : Float} (finite : value.isFinite = true)
    (writes : WritesValue literal value) (start : Recall) :
    valueOf start literal = .ok (value, start.rememberValue value) := by
  have hother : literal ≠ ValueExpression.recallText := by
    rintro rfl
    exact readNumber_recallWord none value writes.2
  unfold valueOf ValueExpression.read
  rw [if_neg hother, writes.2]
  simp only [finite, if_true]

/-- The literal for a value is resolved to the value that its word is resolved to. -/
theorem valueOf_of_expands {word literal : String} {value : Float} {last : Recall}
    (valid : remembered.Valid registry) (expands : ExpandsValue remembered.value word literal)
    (h : valueOf remembered word = .ok (value, last)) (start : Recall) :
    ∃ finish, valueOf start literal = .ok (value, finish) ∧
      (start = remembered → finish = last) := by
  cases expands with
  | @ofRecall number _ remembers writes =>
    simp only [valueOf_recallText, remembers, Except.ok.injEq, Prod.mk.injEq] at h
    obtain ⟨hvalue, hlast⟩ := h
    rw [hvalue] at writes remembers
    refine ⟨_, valueOf_of_writesValue (valid.value value remembers).1 writes start, ?_⟩
    rintro rfl
    rw [← hlast, Recall.rememberValue, ← remembers]
  | self other =>
    refine ⟨_, valueOf_of_ne other h start, ?_⟩
    rintro rfl
    have hsame := valueOf_of_ne other h start
    rw [h, Except.ok.injEq, Prod.mk.injEq] at hsame
    exact hsame.2.symm

namespace Recall

/-- Remembering the unit that a place holds changes nothing. -/
theorem remember_held {slot : Slot} {recalled : RecalledUnit}
    (h : remembered.held slot = some recalled) (hname : recalled.typedName ≠ "") :
    remembered.remember slot recalled.unit recalled.typedName = .ok remembered := by
  have hempty : recalled.typedName.isEmpty = false := by simpa using hname
  unfold remember
  cases slot with
  | value => simp [held] at h
  | input =>
    simp only [held] at h
    simp only [hempty, Bool.false_eq_true, if_false, ← h]
  | output =>
    simp only [held] at h
    simp only [hempty, Bool.false_eq_true, if_false, ← h]

/-- Whether a unit can be remembered depends on the place alone. -/
theorem exists_remember {slot : Slot} {unit : MeasureUnit} {name : String} {last : Recall}
    (h : remembered.remember slot unit name = .ok last) (start : Recall) :
    ∃ finish, start.remember slot unit name = .ok finish := by
  unfold remember at h ⊢
  cases slot with
  | value => simp at h
  | input => exact ⟨_, rfl⟩
  | output => exact ⟨_, rfl⟩

end Recall

/-- A name that is found once is found whatever is remembered. -/
theorem exists_foundUnitOf {slot : Slot} {name : String} {metric : Option MetricPrefix}
    {resolved : ResolvedUnit} {last : Recall}
    (h : foundUnitOf registry slot remembered name metric = .ok (resolved, last))
    (start : Recall) :
    ∃ finish, foundUnitOf registry slot start name metric = .ok (resolved, finish) := by
  obtain ⟨unit, hlookup, hremember, rfl⟩ := foundUnitOf_eq_ok h
  obtain ⟨finish, hfinish⟩ := Recall.exists_remember hremember start
  refine ⟨finish, ?_⟩
  simp [foundUnitOf, hlookup, hfinish, Except.map]

/-- The name for a unit is resolved to the unit that its word is resolved to. -/
theorem unitOf_of_expands {slot : Slot} {word literal : String} {resolved : ResolvedUnit}
    {last : Recall} (valid : remembered.Valid registry)
    (expands : ExpandsUnit (remembered.held slot) word literal)
    (h : unitOf registry slot remembered word = .ok (resolved, last)) (start : Recall) :
    ∃ finish, unitOf registry slot start literal = .ok (resolved, finish) ∧
      (start = remembered → finish = last) := by
  cases expands with
  | @ofRecall recalled metric remembers =>
    obtain ⟨hname, hlookup⟩ := valid.unit slot recalled remembers
    rw [unitOf_of_recallOf (read_recallWord metric)] at h
    obtain ⟨other, hother, rfl, rfl⟩ := recalledUnitOf_eq_ok h
    obtain rfl : recalled = other := Option.some.inj (remembers.symm.trans hother)
    obtain ⟨finish, hfinish⟩ := Recall.exists_remember (Recall.remember_held remembers hname) start
    refine ⟨finish, ?_, ?_⟩
    · rw [unitOf_of_literalOf (read_literalWord metric hname)]
      simp [foundUnitOf, hlookup, hfinish, Except.map]
    · rintro rfl
      rw [Recall.remember_held remembers hname, Except.ok.injEq] at hfinish
      exact hfinish.symm
  | self other =>
    have hstart : ∃ finish, unitOf registry slot start word = .ok (resolved, finish) := by
      cases hread : read word with
      | error error => simp [unitOf, hread] at h
      | ok expression =>
        obtain ⟨metric, ⟨hword, -⟩ | ⟨name, -, rfl⟩⟩ := read_eq_ok hread
        · exact absurd hword (other metric)
        · rw [unitOf_of_literalOf hread] at h ⊢
          exact exists_foundUnitOf h start
    obtain ⟨finish, hfinish⟩ := hstart
    refine ⟨finish, hfinish, ?_⟩
    rintro rfl
    rw [h, Except.ok.injEq, Prod.mk.injEq] at hfinish
    exact hfinish.2.symm

/-- A word that is resolved to a value, and is no recall, is a number. -/
theorem exists_readNumber_of_valueOf {word : String} (h : word ≠ ValueExpression.recallText)
    {value : Float} {last : Recall} (hvalue : valueOf remembered word = .ok (value, last)) :
    ∃ number, Numeric.readNumber word = .ok number := by
  unfold valueOf ValueExpression.read at hvalue
  rw [if_neg h] at hvalue
  cases hnumber : Numeric.readNumber word with
  | error fault => simp [hnumber] at hvalue
  | ok number => exact ⟨number, rfl⟩

/-- Where a word for a unit is resolved there is a name that stands for it. -/
theorem exists_expandsUnit {slot : Slot} {word : String} {resolved : ResolvedUnit}
    {last : Recall} (h : unitOf registry slot remembered word = .ok (resolved, last)) :
    ∃ literal, ExpandsUnit (remembered.held slot) word literal := by
  by_cases hrecall : ∃ metric, word = recallWord metric
  · obtain ⟨metric, rfl⟩ := hrecall
    rw [unitOf_of_recallOf (read_recallWord metric)] at h
    obtain ⟨recalled, hheld, -, -⟩ := recalledUnitOf_eq_ok h
    exact ⟨_, .ofRecall metric hheld⟩
  · exact ⟨word, .self fun metric hword => hrecall ⟨metric, hword⟩⟩

/-- What stands for a word for a unit is no recall. -/
theorem ne_recallWord_of_expandsUnit {slot : Slot} {word literal : String}
    (valid : remembered.Valid registry)
    (expands : ExpandsUnit (remembered.held slot) word literal) (metric : Option MetricPrefix) :
    literal ≠ recallWord metric := by
  cases expands with
  | @ofRecall recalled named remembers =>
    exact literalWord_ne_recallWord named metric (valid.unit slot recalled remembers).1
  | self other => exact other metric

/-- A word that looks like a value is replaced by one that does. -/
theorem looksLikeValue_of_expands {word literal : String}
    (expands : remembered.Expands .value word literal)
    (h : ValueExpression.looksLikeValue word = true) :
    ValueExpression.looksLikeValue literal = true := by
  cases expands with
  | ofRecall remembers writes =>
    simp [ValueExpression.looksLikeValue, Numeric.isLiteral_of_readNumber writes.1 writes.2]
  | self other => exact h

namespace Recall

/-- As many words stand for words as there are. -/
theorem ExpandsAll.length {slot : Slot} {words literals : List String}
    (expands : ExpandsAll registry slot remembered words literals) :
    literals.length = words.length := by
  induction expands with
  | nil => rfl
  | cons first rest ih => simp [ih]

/-- Words that look like values are replaced by words that do. -/
theorem ExpandsAll.looks {words literals : List String}
    (expands : ExpandsAll registry .value remembered words literals)
    (h : ∀ word ∈ words, ValueExpression.looksLikeValue word = true) :
    ∀ literal ∈ literals, ValueExpression.looksLikeValue literal = true := by
  induction expands with
  | nil => simp
  | cons first rest ih =>
    intro other hother
    rcases List.mem_cons.mp hother with rfl | hin
    · exact looksLikeValue_of_expands first (h _ List.mem_cons_self)
    · exact ih (fun word hword => h word (List.mem_cons_of_mem _ hword)) other hin

/-- So it is when the first word is left aside. -/
theorem ExpandsAll.looks_tail {words literals : List String}
    (expands : ExpandsAll registry .value remembered words literals)
    (h : ∀ word ∈ words.tail, ValueExpression.looksLikeValue word = true) :
    ∀ literal ∈ literals.tail, ValueExpression.looksLikeValue literal = true := by
  cases expands with
  | nil => simp
  | cons first rest => exact rest.looks h

end Recall

/-- The name of a unit looks like no value. -/
theorem looksLikeValue_literalWord (metric : Option MetricPrefix) {name : String} (h : name ≠ "") :
    ValueExpression.looksLikeValue (literalWord metric name) = false := by
  have hother : literalWord metric name ≠ ValueExpression.recallText :=
    literalWord_ne_recallWord metric none h
  have hliteral : Numeric.isLiteral (literalWord metric name) = false := by
    obtain ⟨rest, hescaped⟩ := escaped_eq_cons h
    cases metric with
    | none =>
      simp [Numeric.isLiteral, literalWord, prefixedWord, hescaped,
        Numeric.ofChars?_cons_eq_none (show Numeric.startsLiteral escape = false by decide)]
    | some metric =>
      simp [Numeric.isLiteral, literalWord, prefixedWord,
        Numeric.ofChars?_cons_eq_none (show Numeric.startsLiteral prefixSign = false by decide)]
  simp [ValueExpression.looksLikeValue, hother, hliteral]

/-- The word that stands for an input unit does not look like a value where that one does not. -/
theorem looksLikeValue_of_expandsUnit (slot : Slot) {word literal : String}
    (valid : remembered.Valid registry)
    (expands : ExpandsUnit (remembered.held slot) word literal)
    (h : ValueExpression.looksLikeValue word = false) :
    ValueExpression.looksLikeValue literal = false := by
  cases expands with
  | @ofRecall recalled metric remembers =>
    exact looksLikeValue_literalWord metric (valid.unit slot recalled remembers).1
  | self other => exact h

end UnitConversion

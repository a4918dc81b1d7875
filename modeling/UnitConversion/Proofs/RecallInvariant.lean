import UnitConversion.Console.Interpreter
import UnitConversion.Proofs.AttemptRuns
import UnitConversion.Proofs.LiteralShape
import UnitConversion.Proofs.UnitWords

/-!
# What is recalled is valid

Whatever a console is given, a recalled value can be written as a literal, and a recalled unit is
the one that the registry finds under the recalled name. Each word that is resolved and each command
keeps this, and so does every sequence of lines.
-/

namespace UnitConversion

open Text UnitExpression

/-- The text is a number literal without blanks that reads as the value. -/
def WritesValue (literal : String) (value : Float) : Prop :=
  literal.toList.any isBlank = false ∧ Numeric.readNumber literal = .ok value

namespace Recall

/-- The unit that a place holds, if it holds one. -/
def held (remembered : Recall) : Slot → Option RecalledUnit
  | .value => none
  | .input => remembered.input
  | .output => remembered.output

/-- What is recalled could have been written out: the value by a literal, the units by the names
under which they are recalled. -/
structure Valid (registry : Registry) (remembered : Recall) : Prop where
  /-- The value is finite and has a literal. -/
  value : ∀ value, remembered.value = some value →
    value.isFinite = true ∧ ∃ literal, WritesValue literal value
  /-- The registry finds each unit under its recalled name. -/
  unit : ∀ slot recalled, remembered.held slot = some recalled →
    recalled.typedName ≠ "" ∧ registry.lookup recalled.typedName = some recalled.unit

variable {registry : Registry} {remembered : Recall}

/-- At the start nothing is recalled. -/
theorem valid_empty (registry : Registry) : Recall.empty.Valid registry where
  value := by simp [empty]
  unit := by
    intro slot recalled h
    cases slot <;> simp [empty, held] at h

/-- A value that was read may be remembered. -/
theorem Valid.rememberValue {value : Float} (valid : remembered.Valid registry)
    (finite : value.isFinite = true) (written : ∃ literal, WritesValue literal value) :
    (remembered.rememberValue value).Valid registry where
  value := by
    intro other h
    cases h
    exact ⟨finite, written⟩
  unit := by
    intro slot recalled h
    apply valid.unit slot recalled
    rw [← h]
    cases slot <;> rfl

/-- Remembering a unit under a name fills its place and leaves the others alone. -/
theorem remember_effect {slot : Slot} {unit : MeasureUnit} {name : String} {after : Recall}
    (hname : name ≠ "") (h : remembered.remember slot unit name = .ok after) :
    after.value = remembered.value ∧
      ∀ other, after.held other =
        if other = slot then some ⟨unit, name⟩ else remembered.held other := by
  have hempty : name.isEmpty = false := by simpa using hname
  unfold Recall.remember at h
  simp only [hempty, Bool.false_eq_true, if_false] at h
  cases slot with
  | value => contradiction
  | input =>
    cases h
    exact ⟨rfl, fun other => by cases other <;> rfl⟩
  | output =>
    cases h
    exact ⟨rfl, fun other => by cases other <;> rfl⟩

/-- A unit that was found may be remembered under the name that was asked for. -/
theorem Valid.remember {slot : Slot} {unit : MeasureUnit} {name : String} {after : Recall}
    (valid : remembered.Valid registry) (hname : name ≠ "")
    (hlookup : registry.lookup name = some unit)
    (h : remembered.remember slot unit name = .ok after) : after.Valid registry := by
  obtain ⟨hvalue, hheld⟩ := remember_effect hname h
  constructor
  · intro value hafter
    exact valid.value value (by rw [← hvalue, hafter])
  · intro other recalled hafter
    rw [hheld other] at hafter
    by_cases hslot : other = slot
    · rw [if_pos hslot] at hafter
      cases hafter
      exact ⟨hname, hlookup⟩
    · rw [if_neg hslot] at hafter
      exact valid.unit other recalled hafter

end Recall

/-- A word that is read as a value is a finite number, and it can be written without blanks. -/
theorem writesValue_of_read {token : String} {value : Float}
    (h : ValueExpression.read token = .ok (.literal value)) :
    value.isFinite = true ∧ ∃ literal, WritesValue literal value := by
  unfold ValueExpression.read at h
  split at h
  · simp at h
  · split at h
    · simp at h
    · rename_i number hnumber
      split at h
      · rename_i hfinite
        simp only [Except.ok.injEq, ValueExpression.literal.injEq] at h
        subst h
        exact ⟨hfinite, trim token, Numeric.any_isBlank_trim hnumber,
          Numeric.readNumber_trim hnumber⟩
      · simp at h

/-- Resolving a value keeps what is recalled valid. -/
theorem valid_of_valueOf {registry : Registry} {remembered after : Recall} {token : String}
    {value : Float} (valid : remembered.Valid registry)
    (h : valueOf remembered token = .ok (value, after)) : after.Valid registry := by
  unfold valueOf at h
  cases hread : ValueExpression.read token with
  | error error => simp [hread] at h
  | ok expression =>
    rw [hread] at h
    cases expression with
    | literal number =>
      obtain ⟨hfinite, hwritten⟩ := writesValue_of_read hread
      simp only [Except.ok.injEq, Prod.mk.injEq] at h
      rw [← h.2]
      exact valid.rememberValue hfinite hwritten
    | recalled =>
      dsimp only at h
      cases hvalue : remembered.value with
      | none => simp [hvalue] at h
      | some number =>
        simp only [hvalue, Except.ok.injEq, Prod.mk.injEq] at h
        rw [← h.2]
        exact valid

/-- A word that recalls a unit is resolved to the unit that its place holds. -/
theorem unitOf_of_recallOf {registry : Registry} {slot : Slot} {remembered : Recall}
    {token : String} {metric : Option MetricPrefix} (h : read token = .ok (recallOf metric)) :
    unitOf registry slot remembered token = recalledUnitOf slot remembered metric := by
  unfold unitOf
  rw [h]
  cases metric <;> rfl

/-- A word that names a unit is resolved to the unit that the registry finds. -/
theorem unitOf_of_literalOf {registry : Registry} {slot : Slot} {remembered : Recall}
    {token name : String} {metric : Option MetricPrefix}
    (h : read token = .ok (literalOf metric name)) :
    unitOf registry slot remembered token = foundUnitOf registry slot remembered name metric := by
  unfold unitOf
  rw [h]
  cases metric <;> rfl

/-- A unit is recalled without a change to what is recalled. -/
theorem recalledUnitOf_eq_ok {slot : Slot} {remembered after : Recall}
    {metric : Option MetricPrefix} {resolved : ResolvedUnit}
    (h : recalledUnitOf slot remembered metric = .ok (resolved, after)) :
    ∃ recalled, remembered.held slot = some recalled ∧ after = remembered ∧
      resolved = ⟨recalled.unit, (prefixParts metric).1, (prefixParts metric).2,
        recalled.typedName⟩ := by
  unfold recalledUnitOf at h
  cases slot with
  | value => simp [Recall.unitAt] at h
  | input =>
    cases hheld : remembered.input with
    | none => simp [Recall.unitAt, hheld] at h
    | some recalled =>
      simp only [Recall.unitAt, hheld, Except.ok.injEq, Prod.mk.injEq] at h
      exact ⟨recalled, hheld, h.2.symm, h.1.symm⟩
  | output =>
    cases hheld : remembered.output with
    | none => simp [Recall.unitAt, hheld] at h
    | some recalled =>
      simp only [Recall.unitAt, hheld, Except.ok.injEq, Prod.mk.injEq] at h
      exact ⟨recalled, hheld, h.2.symm, h.1.symm⟩

/-- A unit that is found is remembered. -/
theorem foundUnitOf_eq_ok {registry : Registry} {slot : Slot} {remembered after : Recall}
    {name : String} {metric : Option MetricPrefix} {resolved : ResolvedUnit}
    (h : foundUnitOf registry slot remembered name metric = .ok (resolved, after)) :
    ∃ unit, registry.lookup name = some unit ∧ remembered.remember slot unit name = .ok after ∧
      resolved = ⟨unit, (prefixParts metric).1, (prefixParts metric).2, name⟩ := by
  unfold foundUnitOf at h
  cases hlookup : registry.lookup name with
  | none => simp [hlookup] at h
  | some unit =>
    simp only [hlookup] at h
    obtain ⟨next, hnext, hpair⟩ := Outcome.map_eq_ok.mp h
    simp only [Prod.mk.injEq] at hpair
    rw [hpair.2] at hnext
    exact ⟨unit, rfl, hnext, hpair.1.symm⟩

/-- Resolving a unit keeps what is recalled valid. -/
theorem valid_of_unitOf {registry : Registry} {slot : Slot} {remembered after : Recall}
    {token : String} {resolved : ResolvedUnit} (valid : remembered.Valid registry)
    (h : unitOf registry slot remembered token = .ok (resolved, after)) : after.Valid registry := by
  cases hread : read token with
  | error error => simp [unitOf, hread] at h
  | ok expression =>
    obtain ⟨metric, ⟨-, rfl⟩ | ⟨name, hname, rfl⟩⟩ := read_eq_ok hread
    · rw [unitOf_of_recallOf hread] at h
      obtain ⟨recalled, -, rfl, -⟩ := recalledUnitOf_eq_ok h
      exact valid
    · rw [unitOf_of_literalOf hread] at h
      obtain ⟨unit, hlookup, hremember, -⟩ := foundUnitOf_eq_ok h
      exact valid.remember hname hlookup hremember

/-- Resolving the word of a value keeps what is recalled valid, also when it fails. -/
theorem keeps_resolveValue (registry : Registry) (token : String) :
    Attempt.Keeps (Recall.Valid registry) (resolveValue token) := by
  intro memory valid
  rw [runFrom_resolveValue]
  cases h : valueOf memory.remembered token with
  | error error => exact valid
  | ok result => exact valid_of_valueOf valid h

/-- Resolving the word of a unit keeps what is recalled valid, also when it fails. -/
theorem keeps_resolveUnit (registry : Registry) (slot : Slot) (token : String) :
    Attempt.Keeps (Recall.Valid registry) (resolveUnit registry slot token) := by
  intro memory valid
  rw [runFrom_resolveUnit]
  cases h : unitOf registry slot memory.remembered token with
  | error error => exact valid
  | ok result => exact valid_of_unitOf valid h

/-- Converting a line keeps what is recalled valid, also when it fails halfway. -/
theorem keeps_convertLine (registry : Registry) (words : List String) :
    Attempt.Keeps (Recall.Valid registry) (Request.convertLine registry words) := by
  refine (Attempt.keeps_check _).bind fun split => ?_
  refine (Attempt.Keeps.mapM (keeps_resolveValue registry) _).bind fun values => ?_
  refine (keeps_resolveUnit registry .input _).bind fun source => ?_
  refine (Attempt.Keeps.mapM (fun token => ?_) _).bind fun columns => Attempt.keeps_pure _
  refine (keeps_resolveUnit registry .output token).bind fun target => ?_
  exact (Attempt.keeps_check _).bind fun results => Attempt.keeps_pure _

namespace Session

/-- The session works on the registry and what it recalls is valid. -/
structure Valid (registry : Registry) (session : Session) : Prop where
  /-- The registry is this one. -/
  units : session.registry = registry
  /-- What is recalled is valid. -/
  recalled : session.remembered.Valid registry

/-- Carrying out a request keeps the session valid if the request keeps what is recalled valid. -/
theorem Valid.perform {α : Type} {registry : Registry} {session : Session} {attempt : Attempt α}
    (valid : session.Valid registry) (keeps : attempt.Keeps (Recall.Valid registry)) :
    (session.perform attempt).2.1.Valid registry :=
  ⟨valid.units, keeps ⟨session.remembered, []⟩ valid.recalled⟩

end Session

namespace Command

variable {registry : Registry} {session after : Session} {reply : String}

/-- The style has no part in what is recalled. -/
theorem valid_of_runFormat {arguments : List String} (valid : session.Valid registry)
    (h : runFormat session arguments = .ok (after, reply)) : after.Valid registry := by
  unfold runFormat at h
  split at h
  · simp only [Except.ok.injEq, Prod.mk.injEq] at h
    rw [← h.1]
    exact valid
  · split at h
    · simp only [Except.ok.injEq, Prod.mk.injEq] at h
      rw [← h.1]
      exact ⟨valid.units, valid.recalled⟩
    · simp at h

/-- Setting the recalled value keeps the session valid. -/
theorem valid_of_runValue {arguments : List String} (valid : session.Valid registry)
    (h : runValue session arguments = .ok (after, reply)) : after.Valid registry := by
  unfold runValue at h
  split at h
  · split at h <;> simp only [Except.ok.injEq, Prod.mk.injEq] at h <;> rw [← h.1] <;> exact valid
  · split at h
    · simp at h
    · simp at h
    · rename_i hread
      obtain ⟨hfinite, hwritten⟩ := writesValue_of_read hread
      simp only [Except.ok.injEq, Prod.mk.injEq] at h
      rw [← h.1]
      exact ⟨valid.units, valid.recalled.rememberValue hfinite hwritten⟩

/-- Setting a recalled unit keeps the session valid. -/
theorem valid_of_runUnit {slot : Slot} {arguments : List String} (valid : session.Valid registry)
    (h : runUnit slot session arguments = .ok (after, reply)) : after.Valid registry := by
  unfold runUnit at h
  split at h
  · split at h
    · simp at h
    · simp only [Except.ok.injEq, Prod.mk.injEq] at h
      rw [← h.1]
      exact valid
    · simp only [Except.ok.injEq, Prod.mk.injEq] at h
      rw [← h.1]
      exact valid
  · rename_i word rest
    cases hread : read word with
    | error error => simp [hread] at h
    | ok expression =>
      rw [hread] at h
      cases expression with
      | literal name =>
        have hname : name ≠ "" := ne_empty_of_read hread
        dsimp only at h
        cases hlookup : session.registry.lookup name with
        | none => simp [hlookup] at h
        | some unit =>
          simp only [hlookup] at h
          cases hremember : session.remembered.remember slot unit name with
          | error error => simp [hremember] at h
          | ok remembered =>
            simp only [hremember, Except.ok.injEq, Prod.mk.injEq] at h
            rw [valid.units] at hlookup
            rw [← h.1]
            exact ⟨valid.units, valid.recalled.remember hname hlookup hremember⟩
      | prefixed metric name => simp at h
      | recalled => simp at h
      | prefixedRecall metric => simp at h

/-- A command keeps the session valid. -/
theorem valid_of_run {command : Command} {arguments : List String} (valid : session.Valid registry)
    (h : command.run session arguments = .ok (after, reply)) : after.Valid registry := by
  obtain ⟨-, -, hrun⟩ := Outcome.bind_eq_ok.mp h
  have hsame : ∀ text : String,
      (pure (session, text) : Except CommandError (Session × String)) = .ok (after, reply) →
        after.Valid registry := by
    intro text htext
    have hafter : session = after := congrArg Prod.fst (Outcome.pure_eq_ok.mp htext)
    rw [← hafter]
    exact valid
  cases command with
  | format => exact valid_of_runFormat valid hrun
  | value => exact valid_of_runValue valid hrun
  | inputUnit => exact valid_of_runUnit valid hrun
  | outputUnit => exact valid_of_runUnit valid hrun
  | units =>
    change runUnits session arguments = .ok (after, reply) at hrun
    unfold runUnits at hrun
    dsimp only at hrun
    split at hrun
    · exact hsame _ hrun
    · simp at hrun
  | help => exact hsame helpText hrun
  | version => exact hsame versionText hrun

end Command

namespace Console

variable {registry : Registry} {console : Console}

/-- After a line of conversions the session is the one that carried it out. -/
theorem session_convert (console : Console) (words : List String) :
    (console.convert words).console.session =
      (console.session.perform
        (Request.convertLine console.session.registry words)).2.1 := by
  unfold convert
  obtain ⟨outcome, session, resolutions⟩ := console.session.perform
    (Request.convertLine console.session.registry words)
  cases outcome <;> rfl

/-- Words that are taken keep the session valid: a command, a conversion, or one that fails. -/
theorem valid_executeWords (valid : console.session.Valid registry) (words : List String) :
    (console.executeWords words).console.session.Valid registry := by
  unfold executeWords
  split
  · exact valid
  · rename_i word arguments
    split
    · unfold leave
      split <;> exact valid
    · split
      · rename_i found _
        unfold command
        cases hrun : found.run console.session arguments with
        | error error => exact valid
        | ok result => exact Command.valid_of_run valid hrun
      · rw [session_convert, valid.units]
        exact valid.perform (keeps_convertLine registry _)

/-- A line that is taken keeps the session valid. -/
theorem valid_execute (valid : console.session.Valid registry) (line : String) :
    (console.execute line).console.session.Valid registry := by
  unfold execute
  cases Line.words line with
  | error failure => exact valid
  | ok words => exact valid_executeWords valid words

/-- What a console may be given. -/
inductive Input
  /-- A line. -/
  | line (text : String)
  /-- A line that is split into words. -/
  | words (words : List String)

/-- The console after an input. Whether the input asks to leave is not looked at. -/
def take (console : Console) : Input → Console
  | .line text => (console.execute text).console
  | .words words => (console.executeWords words).console

/-- The console after inputs, one after another. -/
def takeAll (console : Console) (inputs : List Input) : Console := inputs.foldl take console

/-- Whatever a console is given, its session stays valid. -/
theorem valid_takeAll (valid : console.session.Valid registry) (inputs : List Input) :
    (console.takeAll inputs).session.Valid registry := by
  induction inputs generalizing console with
  | nil => exact valid
  | cons input inputs ih =>
    apply ih
    cases input with
    | line text => exact valid_execute valid text
    | words words => exact valid_executeWords valid words

/-- From a session in which nothing was used yet only valid sessions are reached. -/
theorem valid_takeAll_start (registry : Registry) (style : OutputStyle) (precision : Precision)
    (inputs : List Input) :
    ((start (.start registry style precision)).takeAll inputs).session.Valid registry := by
  apply valid_takeAll
  exact ⟨rfl, Recall.valid_empty registry⟩

end Console

end UnitConversion

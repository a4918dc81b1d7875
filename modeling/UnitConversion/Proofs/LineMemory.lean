import UnitConversion.Proofs.RecallAbbreviation

/-!
# What a line leaves behind

A line resolves its words one after another: the values, then the input unit, then the output units,
and it converts to each output unit before it looks at the next one. What is recalled after the line
is what was recalled before it, changed by the literals among the words that were resolved before
something failed. Recalls change nothing, and no word changes more than its own place.
-/

namespace UnitConversion

open UnitExpression

/-- A word of a line and its place. -/
abbrev PlacedWord := Slot × String

/-- What a word sets when it is resolved. -/
inductive Note
  /-- The value used last. -/
  | value (value : Float)
  /-- The unit converted from last. -/
  | input (unit : RecalledUnit)
  /-- The unit converted to last. -/
  | output (unit : RecalledUnit)

/-- The unit that a word names, without a metric prefix and under the name that is written. -/
def namedUnit? (registry : Registry) (word : String) : Option RecalledUnit :=
  match read word with
  | .ok (.literal name) | .ok (.prefixed _ name) =>
    (registry.lookup name).map fun unit => ⟨unit, name⟩
  | _ => none

/-- What a word sets in its place: the finite number that it writes, or the known unit that it
names. A recall sets nothing. -/
def Note.of? (registry : Registry) : PlacedWord → Option Note
  | (.value, word) =>
    match ValueExpression.read word with
    | .ok (.literal number) => some (.value number)
    | _ => none
  | (.input, word) => (namedUnit? registry word).map .input
  | (.output, word) => (namedUnit? registry word).map .output

namespace Recall

/-- What is recalled once something is set. -/
def note (remembered : Recall) : Note → Recall
  | .value value => { remembered with value := some value }
  | .input unit => { remembered with input := some unit }
  | .output unit => { remembered with output := some unit }

/-- What is recalled once words have set what they set, one after another. -/
def noteAll (registry : Registry) (remembered : Recall) (words : List PlacedWord) : Recall :=
  (words.filterMap (Note.of? registry)).foldl note remembered

/-- The word is resolved in its place where this is recalled. -/
def resolves (registry : Registry) (remembered : Recall) : PlacedWord → Bool
  | (.value, word) => ((resolveValue word).runOn remembered).1.isOk
  | (slot, word) => ((resolveUnit registry slot word).runOn remembered).1.isOk

/-- Resolve words one after another, up to the first that fails or the first behind which the line
does not go on. Gives the words that were resolved, and whether the line goes on behind the last. -/
def progress (registry : Registry) (goesOn : Recall → PlacedWord → Bool) :
    Recall → List PlacedWord → List PlacedWord × Bool
  | _, [] => ([], true)
  | remembered, word :: words =>
    if remembered.resolves registry word then
      if goesOn remembered word then
        let (later, finished) := progress registry goesOn (remembered.noteAll registry [word]) words
        (word :: later, finished)
      else ([word], false)
    else ([], false)

variable {registry : Registry} {remembered : Recall}

@[simp]
theorem noteAll_nil (registry : Registry) (remembered : Recall) :
    remembered.noteAll registry [] = remembered := rfl

/-- Words set what they set one behind the other. -/
theorem noteAll_append (registry : Registry) (remembered : Recall)
    (first later : List PlacedWord) :
    remembered.noteAll registry (first ++ later) =
      (remembered.noteAll registry first).noteAll registry later := by
  simp [noteAll, List.filterMap_append]

/-- A word sets what it is a note of. -/
theorem noteAll_singleton (registry : Registry) (remembered : Recall) (word : PlacedWord) :
    remembered.noteAll registry [word] =
      match Note.of? registry word with
      | some noted => remembered.note noted
      | none => remembered := by
  unfold noteAll
  rw [List.filterMap_cons]
  cases Note.of? registry word <;> rfl

/-- The word of a value sets the value at most. -/
theorem noteAll_value (registry : Registry) (remembered : Recall) (word : String) :
    (remembered.noteAll registry [(.value, word)]).input = remembered.input ∧
      (remembered.noteAll registry [(.value, word)]).output = remembered.output := by
  rw [noteAll_singleton]
  simp only [Note.of?]
  rcases ValueExpression.read word with error | (number | _) <;> exact ⟨rfl, rfl⟩

/-- The word of the input unit sets the input unit at most. -/
theorem noteAll_input (registry : Registry) (remembered : Recall) (word : String) :
    (remembered.noteAll registry [(.input, word)]).value = remembered.value ∧
      (remembered.noteAll registry [(.input, word)]).output = remembered.output := by
  rw [noteAll_singleton]
  simp only [Note.of?]
  cases namedUnit? registry word <;> exact ⟨rfl, rfl⟩

/-- The word of an output unit sets the output unit at most. -/
theorem noteAll_output (registry : Registry) (remembered : Recall) (word : String) :
    (remembered.noteAll registry [(.output, word)]).value = remembered.value ∧
      (remembered.noteAll registry [(.output, word)]).input = remembered.input := by
  rw [noteAll_singleton]
  simp only [Note.of?]
  cases namedUnit? registry word <;> exact ⟨rfl, rfl⟩

/-- What is recalled after a value is resolved is what its word sets. -/
theorem eq_noteAll_of_valueOf {word : String} {value : Float} {last : Recall}
    (h : valueOf remembered word = .ok (value, last)) :
    last = remembered.noteAll registry [(.value, word)] := by
  rw [noteAll_singleton]
  simp only [Note.of?]
  unfold valueOf at h
  cases hread : ValueExpression.read word with
  | error error => simp [hread] at h
  | ok expression =>
    rw [hread] at h
    cases expression with
    | literal number =>
      simp only [Except.ok.injEq, Prod.mk.injEq] at h
      exact h.2.symm
    | recalled =>
      dsimp only at h
      cases hvalue : remembered.value with
      | none => simp [hvalue] at h
      | some number =>
        simp only [hvalue, Except.ok.injEq, Prod.mk.injEq] at h
        exact h.2.symm

/-- What is recalled after a unit is resolved is what its word sets. -/
theorem eq_noteAll_of_unitOf {slot : Slot} {word : String} {resolved : ResolvedUnit}
    {last : Recall} (h : unitOf registry slot remembered word = .ok (resolved, last)) :
    last = remembered.noteAll registry [(slot, word)] := by
  cases hread : read word with
  | error error => simp [unitOf, hread] at h
  | ok expression =>
    rw [noteAll_singleton]
    obtain ⟨metric, ⟨-, rfl⟩ | ⟨name, hname, rfl⟩⟩ := read_eq_ok hread
    · rw [unitOf_of_recallOf hread] at h
      obtain ⟨recalled, hheld, rfl, -⟩ := recalledUnitOf_eq_ok h
      have hnone : namedUnit? registry word = none := by
        unfold namedUnit?
        rw [hread]
        cases metric <;> rfl
      cases slot with
      | value => simp [held] at hheld
      | input => simp [Note.of?, hnone]
      | output => simp [Note.of?, hnone]
    · rw [unitOf_of_literalOf hread] at h
      obtain ⟨unit, hlookup, hremember, -⟩ := foundUnitOf_eq_ok h
      have hnamed : namedUnit? registry word = some ⟨unit, name⟩ := by
        unfold namedUnit?
        rw [hread]
        cases metric <;> simp [literalOf, hlookup]
      have hempty : name.isEmpty = false := by simpa using hname
      simp only [remember, hempty, Bool.false_eq_true, if_false] at hremember
      cases slot with
      | value => contradiction
      | input =>
        cases hremember
        simp [Note.of?, hnamed, note]
      | output =>
        cases hremember
        simp [Note.of?, hnamed, note]

/-- The word of a value is resolved when it stands for one. -/
theorem resolves_value (registry : Registry) (remembered : Recall) (word : String) :
    remembered.resolves registry (.value, word) = (valueOf remembered word).isOk := by
  unfold resolves
  dsimp only
  rw [Attempt.runOn_eq_runFrom, runFrom_resolveValue]
  cases valueOf remembered word <;> rfl

/-- The word of a unit is resolved when it stands for one. -/
theorem resolves_unit (registry : Registry) (remembered : Recall) (slot : Slot)
    (hslot : slot ≠ .value) (word : String) :
    remembered.resolves registry (slot, word) = (unitOf registry slot remembered word).isOk := by
  have hrun : ((resolveUnit registry slot word).runOn remembered).1.isOk =
      (unitOf registry slot remembered word).isOk := by
    rw [Attempt.runOn_eq_runFrom, runFrom_resolveUnit]
    cases unitOf registry slot remembered word <;> rfl
  cases slot with
  | value => exact absurd rfl hslot
  | input => exact hrun
  | output => exact hrun

/-- What is recalled after a word: what it sets when it is resolved, and else nothing new. -/
theorem after_eq (registry : Registry) (remembered : Recall) (slot : Slot) (word : String) :
    remembered.after registry slot word =
      if remembered.resolves registry (slot, word) then
        remembered.noteAll registry [(slot, word)]
      else remembered := by
  by_cases hslot : slot = .value
  · subst hslot
    rw [resolves_value, after, Attempt.runOn_eq_runFrom, runFrom_resolveValue]
    cases hvalue : valueOf remembered word with
    | error error => rfl
    | ok result => exact eq_noteAll_of_valueOf hvalue
  · have hrun : remembered.after registry slot word =
        ((resolveUnit registry slot word).runOn remembered).2.remembered := by
      cases slot with
      | value => exact absurd rfl hslot
      | input => rfl
      | output => rfl
    rw [resolves_unit registry remembered slot hslot, hrun, Attempt.runOn_eq_runFrom,
      runFrom_resolveUnit]
    cases hunit : unitOf registry slot remembered word with
    | error error => rfl
    | ok result => exact eq_noteAll_of_unitOf hunit

/-- What is recalled after a word is what was recalled before it, or what the word sets. -/
theorem after_eq_or (registry : Registry) (remembered : Recall) (slot : Slot) (word : String) :
    remembered.after registry slot word = remembered ∨
      remembered.after registry slot word = remembered.noteAll registry [(slot, word)] := by
  rw [after_eq]
  split
  · exact .inr rfl
  · exact .inl rfl

/-- The word of a value leaves the units alone. -/
theorem after_value (registry : Registry) (remembered : Recall) (word : String) :
    (remembered.after registry .value word).input = remembered.input ∧
      (remembered.after registry .value word).output = remembered.output := by
  rcases after_eq_or registry remembered .value word with hafter | hafter <;> rw [hafter]
  · exact ⟨rfl, rfl⟩
  · exact noteAll_value registry remembered word

/-- The word of the input unit leaves the value and the output unit alone. -/
theorem after_input (registry : Registry) (remembered : Recall) (word : String) :
    (remembered.after registry .input word).value = remembered.value ∧
      (remembered.after registry .input word).output = remembered.output := by
  rcases after_eq_or registry remembered .input word with hafter | hafter <;> rw [hafter]
  · exact ⟨rfl, rfl⟩
  · exact noteAll_input registry remembered word

/-- The word of an output unit leaves the value and the input unit alone. -/
theorem after_output (registry : Registry) (remembered : Recall) (word : String) :
    (remembered.after registry .output word).value = remembered.value ∧
      (remembered.after registry .output word).input = remembered.input := by
  rcases after_eq_or registry remembered .output word with hafter | hafter <;> rw [hafter]
  · exact ⟨rfl, rfl⟩
  · exact noteAll_output registry remembered word

/-- A word that cannot be resolved ends the line. -/
theorem progress_of_not_resolves {goesOn : Recall → PlacedWord → Bool} {word : PlacedWord}
    (h : remembered.resolves registry word = false) (words : List PlacedWord) :
    remembered.progress registry goesOn (word :: words) = ([], false) := by
  simp [progress, h]

/-- A word that is resolved counts, also when the line ends with it. -/
theorem progress_of_stops {goesOn : Recall → PlacedWord → Bool} {word : PlacedWord}
    (h : remembered.resolves registry word = true) (hstops : goesOn remembered word = false)
    (words : List PlacedWord) :
    remembered.progress registry goesOn (word :: words) = ([word], false) := by
  simp [progress, h, hstops]

/-- Behind a word that is resolved the line goes on with what is recalled there. -/
theorem progress_of_goesOn {goesOn : Recall → PlacedWord → Bool} {word : PlacedWord}
    (h : remembered.resolves registry word = true) (hgoes : goesOn remembered word = true)
    (words : List PlacedWord) :
    remembered.progress registry goesOn (word :: words) =
      (word :: ((remembered.noteAll registry [word]).progress registry goesOn words).1,
        ((remembered.noteAll registry [word]).progress registry goesOn words).2) := by
  simp [progress, h, hgoes]

/-- When the line goes on behind the last of the words, all of them were resolved. -/
theorem progress_fst_of_finished {goesOn : Recall → PlacedWord → Bool} {words : List PlacedWord}
    (h : (remembered.progress registry goesOn words).2 = true) :
    (remembered.progress registry goesOn words).1 = words := by
  induction words generalizing remembered with
  | nil => rfl
  | cons word words ih =>
    cases hresolves : remembered.resolves registry word with
    | false => simp [progress_of_not_resolves hresolves] at h
    | true =>
      cases hgoes : goesOn remembered word with
      | false => simp [progress_of_stops hresolves hgoes] at h
      | true =>
        rw [progress_of_goesOn hresolves hgoes] at h ⊢
        rw [ih h]

/-- The words behind others are reached when the line goes on behind those. -/
theorem progress_append (goesOn : Recall → PlacedWord → Bool) (remembered : Recall)
    (first later : List PlacedWord) :
    remembered.progress registry goesOn (first ++ later) =
      if (remembered.progress registry goesOn first).2 then
        (first ++ ((remembered.noteAll registry first).progress registry goesOn later).1,
          ((remembered.noteAll registry first).progress registry goesOn later).2)
      else remembered.progress registry goesOn first := by
  induction first generalizing remembered with
  | nil => rfl
  | cons word words ih =>
    have hnote : remembered.noteAll registry (word :: words) =
        (remembered.noteAll registry [word]).noteAll registry words :=
      noteAll_append registry remembered [word] words
    rw [List.cons_append, hnote]
    cases hresolves : remembered.resolves registry word with
    | false => simp [progress_of_not_resolves hresolves]
    | true =>
      cases hgoes : goesOn remembered word with
      | false => simp [progress_of_stops hresolves hgoes]
      | true =>
        rw [progress_of_goesOn hresolves hgoes, progress_of_goesOn hresolves hgoes, ih]
        dsimp only
        split <;> rfl

end Recall

/-- A resolved word and its place. -/
def Resolution.placed (resolution : Resolution) : PlacedWord :=
  (resolution.slot, resolution.token)

namespace Attempt

variable {α β : Type} {registry : Registry} {goesOn : Recall → PlacedWord → Bool}

/-- The attempt resolves the words: from the memory on it leaves behind what they set as far as they
are resolved, reports the units among these, and succeeds when the line goes on behind them all. -/
structure Progresses (registry : Registry) (goesOn : Recall → PlacedWord → Bool)
    (words : List PlacedWord) (memory : Memory) (attempt : Attempt α) : Prop where
  /-- What is recalled is what the resolved words set. -/
  remembered : (attempt.runFrom memory).2.remembered =
    memory.remembered.noteAll registry (memory.remembered.progress registry goesOn words).1
  /-- The resolved units are reported. -/
  resolutions : (attempt.runFrom memory).2.resolutions.map Resolution.placed =
    memory.resolutions.map Resolution.placed ++
      (memory.remembered.progress registry goesOn words).1.filter (·.1 != .value)
  /-- It succeeds when nothing stops it. -/
  finished : (attempt.runFrom memory).1.isOk =
    (memory.remembered.progress registry goesOn words).2

/-- What only returns a value resolves no words. -/
theorem progresses_pure (value : α) (memory : Memory) :
    Progresses registry goesOn [] memory (pure value : Attempt α) where
  remembered := rfl
  resolutions := by simp [Recall.progress]
  finished := rfl

/-- A word that cannot be resolved leaves everything as it is. -/
theorem progresses_of_not_resolves {word : PlacedWord} {memory : Memory} {attempt : Attempt α}
    {error : ConversionError} (h : memory.remembered.resolves registry word = false)
    (hrun : attempt.runFrom memory = (.error error, memory)) :
    Progresses registry goesOn [word] memory attempt := by
  constructor <;> rw [hrun, Recall.progress_of_not_resolves h]
  · rfl
  · simp
  · rfl

/-- A word that is resolved leaves behind what it sets, whatever is done with it. -/
theorem progresses_of_resolves {word : PlacedWord} {memory after : Memory} {attempt : Attempt α}
    {outcome : Except ConversionError α} (h : memory.remembered.resolves registry word = true)
    (hrun : attempt.runFrom memory = (outcome, after))
    (hremembered : after.remembered = memory.remembered.noteAll registry [word])
    (hresolutions : after.resolutions.map Resolution.placed =
      memory.resolutions.map Resolution.placed ++ [word].filter (·.1 != .value))
    (hgoes : outcome.isOk = goesOn memory.remembered word) :
    Progresses registry goesOn [word] memory attempt := by
  cases hstops : goesOn memory.remembered word with
  | false =>
    constructor <;> rw [hrun, Recall.progress_of_stops h hstops]
    · exact hremembered
    · exact hresolutions
    · rw [hgoes, hstops]
  | true =>
    constructor <;> rw [hrun, Recall.progress_of_goesOn h hstops]
    · exact hremembered
    · exact hresolutions
    · rw [hgoes, hstops]
      rfl

/-- A sequence of two steps resolves the words of the first step and then those of the second. -/
theorem Progresses.bind {words later : List PlacedWord} {memory : Memory} {first : Attempt α}
    {next : α → Attempt β} (hfirst : Progresses registry goesOn words memory first)
    (hnext : ∀ value between, first.runFrom memory = (.ok value, between) →
      Progresses registry goesOn later between (next value)) :
    Progresses registry goesOn (words ++ later) memory (first >>= next) := by
  obtain ⟨hremembered, hresolutions, hfinished⟩ := hfirst
  cases hrun : first.runFrom memory with
  | mk outcome between =>
    rw [hrun] at hremembered hresolutions hfinished
    cases outcome with
    | error error =>
      have hstops : ¬(memory.remembered.progress registry goesOn words).2 = true := by
        rw [← hfinished]
        simp [Except.isOk, Except.toBool]
      constructor <;> rw [Recall.progress_append, if_neg hstops, runFrom_bind, hrun]
      · exact hremembered
      · exact hresolutions
      · exact hfinished
    | ok value =>
      have hall : (memory.remembered.progress registry goesOn words).2 = true := hfinished.symm
      rw [Recall.progress_fst_of_finished hall] at hremembered hresolutions
      obtain ⟨hlast, hreported, hend⟩ := hnext value between hrun
      dsimp only at hremembered hresolutions
      rw [hremembered] at hlast hreported hend
      constructor <;> rw [Recall.progress_append, if_pos hall, runFrom_bind, hrun]
      · rw [Recall.noteAll_append]
        exact hlast
      · rw [List.filter_append, ← List.append_assoc, ← hresolutions]
        exact hreported
      · exact hend

/-- Steps for the words in a place resolve these one after another. -/
theorem Progresses.mapM {slot : Slot} {step : String → Attempt α}
    (hstep : ∀ word memory, Progresses registry goesOn [(slot, word)] memory (step word))
    (words : List String) (memory : Memory) :
    Progresses registry goesOn (words.map (slot, ·)) memory (words.mapM step) := by
  induction words generalizing memory with
  | nil => exact progresses_pure [] memory
  | cons word words ih =>
    rw [List.mapM_cons, List.map_cons, ← List.singleton_append, ← List.append_nil (words.map _)]
    refine (hstep word memory).bind fun value between _ => (ih between).bind fun values last _ => ?_
    exact progresses_pure (value :: values) last

/-- A value is resolved by its word. -/
theorem progresses_resolveValue (hgoes : ∀ remembered word, goesOn remembered (.value, word) = true)
    (word : String) (memory : Memory) :
    Progresses registry goesOn [(.value, word)] memory (resolveValue word) := by
  have hresolves := memory.remembered.resolves_value registry word
  have hrun := runFrom_resolveValue word memory
  cases hvalue : valueOf memory.remembered word with
  | error error =>
    rw [hvalue] at hresolves hrun
    exact progresses_of_not_resolves hresolves hrun
  | ok result =>
    rw [hvalue] at hresolves hrun
    refine progresses_of_resolves hresolves hrun (Recall.eq_noteAll_of_valueOf hvalue) ?_ ?_
    · simp
    · rw [hgoes]
      rfl

/-- The input unit is resolved by its word. -/
theorem progresses_resolveUnit (hgoes : ∀ remembered word, goesOn remembered (.input, word) = true)
    (word : String) (memory : Memory) :
    Progresses registry goesOn [(.input, word)] memory (resolveUnit registry .input word) := by
  have hresolves := memory.remembered.resolves_unit registry .input (by decide) word
  have hrun := runFrom_resolveUnit registry .input word memory
  cases hunit : unitOf registry .input memory.remembered word with
  | error error =>
    rw [hunit] at hresolves hrun
    exact progresses_of_not_resolves hresolves hrun
  | ok result =>
    rw [hunit] at hresolves hrun
    refine progresses_of_resolves hresolves hrun (Recall.eq_noteAll_of_unitOf hunit) ?_ ?_
    · simp [Resolution.placed]
    · rw [hgoes]
      rfl

/-- The unit of a column is resolved first; then the values are converted to it. -/
theorem runFrom_column (registry : Registry) (values : List Float) (source : ResolvedUnit)
    (word : String) (memory : Memory) :
    (Request.column registry values source word).runFrom memory =
      match unitOf registry .output memory.remembered word with
      | .ok (target, remembered) =>
        ((Conversion.convertValues values source target).map (target, ·),
          ⟨remembered, memory.resolutions ++ [⟨.output, word, target⟩]⟩)
      | .error error => (.error error, memory) := by
  unfold Request.column
  rw [runFrom_bind, runFrom_resolveUnit]
  cases unitOf registry .output memory.remembered word with
  | error error => rfl
  | ok result =>
    dsimp only
    rw [runFrom_bind, runFrom_check]
    cases Conversion.convertValues values source result.1 <;> rfl

/-- An output unit is resolved by its word, and the line goes on when the values convert to it. -/
theorem progresses_column {values : List Float} {source : ResolvedUnit}
    (hgoes : ∀ remembered word, goesOn remembered (.output, word) =
      ((Request.column registry values source word).runOn remembered).1.isOk)
    (word : String) (memory : Memory) :
    Progresses registry goesOn [(.output, word)] memory
      (Request.column registry values source word) := by
  have hresolves := memory.remembered.resolves_unit registry .output (by decide) word
  have hrun := runFrom_column registry values source word
  have hgoesOn := hgoes memory.remembered word
  rw [runOn_eq_runFrom, hrun] at hgoesOn
  cases hunit : unitOf registry .output memory.remembered word with
  | error error =>
    have hfails := hrun memory
    rw [hunit] at hresolves hfails
    exact progresses_of_not_resolves hresolves hfails
  | ok result =>
    have hsucceeds := hrun memory
    rw [hunit] at hresolves hsucceeds hgoesOn
    refine progresses_of_resolves hresolves hsucceeds (Recall.eq_noteAll_of_unitOf hunit) ?_
      hgoesOn.symm
    simp [Resolution.placed]

end Attempt

namespace Request

namespace Split

/-- The words in the order in which they are resolved. -/
def placed (roles : Split) : List PlacedWord :=
  roles.values.map (.value, ·) ++ (.input, roles.input) :: roles.outputs.map (.output, ·)

/-- Resolve the values and the unit that they are converted from. -/
def operands (registry : Registry) (roles : Split) : Attempt (List Float × ResolvedUnit) := do
  let values ← roles.values.mapM resolveValue
  let source ← resolveUnit registry .input roles.input
  return (values, source)

/-- The line goes on behind a word that is resolved, unless it is an output unit that the values do
not convert to. The line starts with `start` recalled, and reaches the word with `remembered`. -/
def goesOn (registry : Registry) (start : Recall) (roles : Split) (remembered : Recall) :
    PlacedWord → Bool
  | (.output, word) =>
    match ((roles.operands registry).runOn start).1 with
    | .ok (values, source) => ((column registry values source word).runOn remembered).1.isOk
    | .error _ => false
  | _ => true

end Split

/-- The words of a line that are resolved before its first failure, and whether there is none. A
line whose words have no roles fails at once. -/
def progress (registry : Registry) (start : Recall) (words : List String) :
    List PlacedWord × Bool :=
  match split words with
  | .ok roles => start.progress registry (roles.goesOn registry start) roles.placed
  | .error _ => ([], false)

open Attempt

/-- A line resolves its words as far as its roles let it go on. -/
theorem progresses_convertRoles (registry : Registry) (start : Recall) (roles : Split) :
    Progresses registry (roles.goesOn registry start) roles.placed ⟨start, []⟩
      (convertRoles registry roles) := by
  unfold Split.placed convertRoles
  refine (Progresses.mapM (progresses_resolveValue fun _ _ => rfl) roles.values _).bind
    fun values afterValues hvalues => ?_
  rw [← List.singleton_append]
  refine (progresses_resolveUnit (fun _ _ => rfl) roles.input afterValues).bind
    fun source afterInput hsource => ?_
  have hoperands : (roles.operands registry).runFrom ⟨start, []⟩ =
      (.ok (values, source), afterInput) :=
    runFrom_bind_eq_ok.mpr ⟨values, afterValues, hvalues,
      runFrom_bind_eq_ok.mpr ⟨source, afterInput, hsource, rfl⟩⟩
  rw [← List.append_nil (roles.outputs.map _)]
  refine (Progresses.mapM (progresses_column fun remembered word => ?_) roles.outputs _).bind
    fun columns last _ => progresses_pure _ last
  unfold Split.goesOn
  dsimp only
  rw [runOn_eq_runFrom (roles.operands registry), hoperands]

/-- A line whose words have no roles fails before any of them is resolved. -/
theorem runFrom_convertLine_of_error {registry : Registry} {words : List String}
    {error : ConversionError} (h : split words = .error error) (memory : Memory) :
    (convertLine registry words).runFrom memory = (.error error, memory) := by
  unfold convertLine
  rw [runFrom_bind, runFrom_check, h]

/-- A line resolves its words up to its first failure. -/
theorem convertLine_progress (registry : Registry) (start : Recall) (words : List String) :
    ((convertLine registry words).runFrom ⟨start, []⟩).2.remembered =
        start.noteAll registry (progress registry start words).1 ∧
      ((convertLine registry words).runFrom ⟨start, []⟩).2.resolutions.map Resolution.placed =
        (progress registry start words).1.filter (·.1 != .value) ∧
      ((convertLine registry words).runFrom ⟨start, []⟩).1.isOk =
        (progress registry start words).2 := by
  unfold progress
  cases hsplit : split words with
  | error error =>
    rw [runFrom_convertLine_of_error hsplit]
    exact ⟨rfl, rfl, rfl⟩
  | ok roles =>
    rw [runFrom_convertLine hsplit]
    have progresses := progresses_convertRoles registry start roles
    refine ⟨progresses.remembered, ?_, progresses.finished⟩
    simpa using progresses.resolutions

/-- Fewer than three words have no roles. -/
theorem split_of_length_lt {words : List String} (h : words.length < 3) :
    split words = .error (tooFewWords words) := by
  rcases words with _ | ⟨first, _ | ⟨second, _ | ⟨third, rest⟩⟩⟩
  · rfl
  · rfl
  · rfl
  · simp only [List.length_cons] at h
    omega

end Request

open Request

/-- What a line leaves behind, also when it fails: the session as it was, but for what the words set
that are resolved before the first failure, one after another. The units among these words are
reported, and the line succeeds when there is no failure. Fewer than three words change nothing. A
word changes its own place at most. -/
theorem Session.perform_convertLine (session : Session) (words : List String) :
    (session.perform (convertLine session.registry words)).2.1 =
        { session with
          remembered := session.remembered.noteAll session.registry
            (progress session.registry session.remembered words).1 } ∧
      (session.perform (convertLine session.registry words)).2.2.map Resolution.placed =
        (progress session.registry session.remembered words).1.filter (·.1 != .value) ∧
      (session.perform (convertLine session.registry words)).1.isOk =
        (progress session.registry session.remembered words).2 ∧
      (words.length < 3 →
        (session.perform (convertLine session.registry words)).2.1 = session) ∧
      (∀ (remembered : Recall) word,
        (remembered.after session.registry .value word).input = remembered.input ∧
          (remembered.after session.registry .value word).output = remembered.output) ∧
      (∀ (remembered : Recall) word,
        (remembered.after session.registry .input word).value = remembered.value ∧
          (remembered.after session.registry .input word).output = remembered.output) ∧
      ∀ (remembered : Recall) word,
        (remembered.after session.registry .output word).value = remembered.value ∧
          (remembered.after session.registry .output word).input = remembered.input := by
  obtain ⟨hremembered, hresolutions, hfinished⟩ :=
    convertLine_progress session.registry session.remembered words
  refine ⟨?_, hresolutions, hfinished, ?_, Recall.after_value session.registry,
    Recall.after_input session.registry, Recall.after_output session.registry⟩
  · rw [← hremembered]
    rfl
  · intro hlength
    unfold perform
    rw [Attempt.runOn_eq_runFrom, runFrom_convertLine_of_error (split_of_length_lt hlength)]

end UnitConversion

import Mathlib.Data.List.InsertIdx
import UnitConversion.Proofs.ConsoleRuns

/-!
# What commands change

A command is carried out as a whole or not at all. One that is refused leaves the session as it was.
One that is carried out changes at most one thing: the style, or what one place of what is recalled
holds, and there it leaves what resolving the same word would leave. So a refused command might as
well not be there: without it every other line of a batch writes the same.
-/

namespace UnitConversion

namespace Console

/-- The word is that of a command, or it leaves the console. -/
def isCommandWord (word : String) : Bool :=
  leavingWords.contains word || (Command.ofWord? word).isSome

/-- The input starts with the word of a command. -/
def Input.isCommand (input : Input) : Bool :=
  match input.words? with
  | .ok (word :: _) => isCommandWord word
  | _ => false

/-- The words are those of a command that is carried out, and this is the session after it. -/
inductive Performs (session : Session) : List String → Session → Prop
  /-- Without arguments a command changes nothing. -/
  | alone {word : String} (h : isCommandWord word = true) : Performs session [word] session
  /-- Listing the units of a quantity changes nothing. -/
  | units {words : List String} {quantity : Quantity} (hsome : words ≠ [])
      (h : Quantity.ofName (" ".intercalate words) = .ok quantity) :
      Performs session ("units" :: words) session
  /-- The style is set to the one of the given name. -/
  | format {name : String} {style : OutputStyle} (h : OutputStyle.ofName name = .ok style) :
      Performs session ["format", name] { session with style }
  /-- The recalled value is set to the given number, as resolving that number would do. -/
  | value {token : String} {number : Float}
      (h : ValueExpression.read token = .ok (.literal number))
      (resolved : ((resolveValue token).runOn session.remembered).2.remembered =
        { session.remembered with value := some number }) :
      Performs session ["value", token]
        { session with remembered := { session.remembered with value := some number } }
  /-- The unit converted from is set to the one of the given name, as resolving that name would
  do. -/
  | inputUnit {token name : String} {unit : MeasureUnit}
      (h : UnitExpression.read token = .ok (.literal name))
      (found : session.registry.lookup name = some unit)
      (resolved : ((resolveUnit session.registry .input token).runOn
          session.remembered).2.remembered =
        { session.remembered with input := some ⟨unit, name⟩ }) :
      Performs session ["input_unit", token]
        { session with remembered := { session.remembered with input := some ⟨unit, name⟩ } }
  /-- The unit converted to is set to the one of the given name, as resolving that name would do. -/
  | outputUnit {token name : String} {unit : MeasureUnit}
      (h : UnitExpression.read token = .ok (.literal name))
      (found : session.registry.lookup name = some unit)
      (resolved : ((resolveUnit session.registry .output token).runOn
          session.remembered).2.remembered =
        { session.remembered with output := some ⟨unit, name⟩ }) :
      Performs session ["output_unit", token]
        { session with remembered := { session.remembered with output := some ⟨unit, name⟩ } }

end Console

namespace Command

variable {session after : Session} {arguments : List String} {reply : String}

/-- There are no more arguments than are taken. -/
theorem length_le_of_checkArguments {limit : Nat} {result : Unit}
    (h : checkArguments (some limit) arguments = .ok result) : arguments.length ≤ limit := by
  unfold checkArguments at h
  dsimp only at h
  split at h
  · rename_i hnone
    exact List.drop_eq_nil_iff.mp hnone
  · contradiction

/-- A single argument is taken by the commands that take one. -/
theorem cases_of_checkArguments {result : Unit}
    (h : checkArguments (some 1) arguments = .ok result) :
    arguments = [] ∨ ∃ argument, arguments = [argument] := by
  have hlength := length_le_of_checkArguments h
  rcases arguments with _ | ⟨argument, _ | ⟨other, rest⟩⟩
  · exact .inl rfl
  · exact .inr ⟨argument, rfl⟩
  · simp at hlength

/-- Setting a recalled value leaves what resolving the number leaves. -/
theorem resolved_value {token : String} {number : Float} (remembered : Recall)
    (h : ValueExpression.read token = .ok (.literal number)) :
    ((resolveValue token).runOn remembered).2.remembered =
      { remembered with value := some number } := by
  rw [Attempt.runOn_eq_runFrom, runFrom_resolveValue, valueOf, h]
  rfl

/-- Setting a recalled unit leaves what resolving the name leaves. -/
theorem resolved_unit {registry : Registry} {slot : Slot} {token name : String}
    {unit : MeasureUnit} {remembered recalled : Recall}
    (h : UnitExpression.read token = .ok (.literal name)) (found : registry.lookup name = some unit)
    (hremember : remembered.remember slot unit name = .ok recalled) :
    ((resolveUnit registry slot token).runOn remembered).2.remembered = recalled := by
  rw [Attempt.runOn_eq_runFrom, runFrom_resolveUnit, unitOf, h]
  dsimp only
  rw [foundUnitOf, found]
  dsimp only
  rw [hremember]
  rfl

/-- A unit with a name of its own is remembered under it. -/
theorem remember_input (remembered : Recall) (unit : MeasureUnit) {name : String}
    (h : name ≠ "") : remembered.remember .input unit name =
      .ok { remembered with input := some ⟨unit, name⟩ } := by
  simp [Recall.remember, h]

/-- So it is in the other place. -/
theorem remember_output (remembered : Recall) (unit : MeasureUnit) {name : String}
    (h : name ≠ "") : remembered.remember .output unit name =
      .ok { remembered with output := some ⟨unit, name⟩ } := by
  simp [Recall.remember, h]

open Console (Performs isCommandWord)

/-- A command word is found again. -/
theorem isCommandWord_word (command : Command) : isCommandWord command.word = true := by
  cases command <;> decide

/-- What the command for the style does. -/
theorem runFormat_eq_ok {name : String} :
    runFormat session [name] = .ok (after, reply) ↔ reply = okay ∧
      ∃ style, OutputStyle.ofName name = .ok style ∧ after = { session with style } := by
  unfold runFormat
  dsimp only
  cases OutputStyle.ofName name with
  | error failure => simp only [reduceCtorEq, false_and, exists_false, and_false]
  | ok style =>
    simp only [Except.ok.injEq, Prod.mk.injEq, exists_eq_left']
    exact ⟨fun h => ⟨h.2.symm, h.1.symm⟩, fun h => ⟨h.2.symm, h.1.symm⟩⟩

/-- What the command for the recalled value does. -/
theorem runValue_eq_ok {token : String} :
    runValue session [token] = .ok (after, reply) ↔ reply = okay ∧
      ∃ number, ValueExpression.read token = .ok (.literal number) ∧
        after = { session with remembered := session.remembered.rememberValue number } := by
  simp only [runValue]
  cases ValueExpression.read token with
  | error error => simp
  | ok expression =>
    cases expression with
    | recalled => simp
    | literal number =>
      simp only [Except.ok.injEq, Prod.mk.injEq, ValueExpression.literal.injEq, exists_eq_left']
      exact ⟨fun h => ⟨h.2.symm, h.1.symm⟩, fun h => ⟨h.2.symm, h.1.symm⟩⟩

/-- What a command for a recalled unit does. -/
theorem runUnit_eq_ok {slot : Slot} {token : String} :
    runUnit slot session [token] = .ok (after, reply) ↔ reply = okay ∧
      ∃ name unit recalled, UnitExpression.read token = .ok (.literal name) ∧
        session.registry.lookup name = some unit ∧
        session.remembered.remember slot unit name = .ok recalled ∧
        after = { session with remembered := recalled } := by
  constructor
  · intro h
    simp only [runUnit] at h
    split at h
    · contradiction
    · rename_i name hread
      split at h
      · contradiction
      · rename_i unit hlookup
        split at h
        · contradiction
        · rename_i recalled hremember
          cases h
          exact ⟨rfl, name, unit, recalled, hread, hlookup, hremember, rfl⟩
    · contradiction
  · rintro ⟨rfl, name, unit, recalled, hread, hlookup, hremember, rfl⟩
    simp only [runUnit, hread, hlookup, hremember]

/-- A command whose arguments are not too many is run on them. -/
theorem run_of_checkArguments {command : Command}
    (h : checkArguments command.argumentLimit arguments = .ok ()) :
    command.run session arguments =
      match command with
      | format => runFormat session arguments
      | value => runValue session arguments
      | inputUnit => runUnit .input session arguments
      | outputUnit => runUnit .output session arguments
      | units => runUnits session arguments
      | help => .ok (session, helpText)
      | version => .ok (session, versionText) := by
  unfold run
  rw [h]
  cases command <;> rfl

/-- Without arguments a command changes nothing. -/
theorem run_nil (command : Command) (session : Session) :
    ∃ reply, command.run session [] = .ok (session, reply) := by
  have hlimit : checkArguments command.argumentLimit [] = .ok () := by cases command <;> rfl
  rw [run_of_checkArguments hlimit]
  cases command with
  | format => exact ⟨_, rfl⟩
  | value =>
    simp only [runValue]
    cases session.remembered.value <;> exact ⟨_, rfl⟩
  | inputUnit =>
    simp only [runUnit, Recall.unitAt]
    cases session.remembered.input <;> exact ⟨_, rfl⟩
  | outputUnit =>
    simp only [runUnit, Recall.unitAt]
    cases session.remembered.output <;> exact ⟨_, rfl⟩
  | units => exact ⟨_, rfl⟩
  | help => exact ⟨_, rfl⟩
  | version => exact ⟨_, rfl⟩

/-- A command that is carried out does what commands may do. -/
theorem performs_of_run {command : Command}
    (h : command.run session arguments = .ok (after, reply)) :
    Performs session (command.word :: arguments) after := by
  obtain ⟨_, hlimit, -⟩ := Outcome.bind_eq_ok.mp h
  have hrun := h
  rw [run_of_checkArguments hlimit] at hrun
  by_cases halone : arguments = []
  · subst halone
    obtain ⟨other, hsame⟩ := command.run_nil session
    rw [h] at hsame
    cases hsame
    exact .alone command.isCommandWord_word
  cases command with
  | format =>
    obtain ⟨name, rfl⟩ := (cases_of_checkArguments hlimit).resolve_left halone
    obtain ⟨-, style, hstyle, rfl⟩ := runFormat_eq_ok.mp hrun
    exact .format hstyle
  | value =>
    obtain ⟨token, rfl⟩ := (cases_of_checkArguments hlimit).resolve_left halone
    obtain ⟨-, number, hread, rfl⟩ := runValue_eq_ok.mp hrun
    exact .value hread (resolved_value session.remembered hread)
  | inputUnit =>
    obtain ⟨token, rfl⟩ := (cases_of_checkArguments hlimit).resolve_left halone
    obtain ⟨-, name, unit, recalled, hread, hlookup, hremember, rfl⟩ := runUnit_eq_ok.mp hrun
    have hresolved := resolved_unit hread hlookup hremember
    rw [remember_input _ _ (UnitExpression.ne_empty_of_read hread)] at hremember
    cases hremember
    exact .inputUnit hread hlookup hresolved
  | outputUnit =>
    obtain ⟨token, rfl⟩ := (cases_of_checkArguments hlimit).resolve_left halone
    obtain ⟨-, name, unit, recalled, hread, hlookup, hremember, rfl⟩ := runUnit_eq_ok.mp hrun
    have hresolved := resolved_unit hread hlookup hremember
    rw [remember_output _ _ (UnitExpression.ne_empty_of_read hread)] at hremember
    cases hremember
    exact .outputUnit hread hlookup hresolved
  | units =>
    have hnamed : arguments.isEmpty = false := by simpa using halone
    simp only [runUnits, Registry.listing, hnamed, Bool.false_eq_true, if_false] at hrun
    cases hquantity : Quantity.ofName (" ".intercalate arguments) with
    | error failure => simp only [hquantity, Except.map, reduceCtorEq] at hrun
    | ok quantity =>
      rw [hquantity] at hrun
      cases hrun
      exact .units halone hquantity
  | help | version =>
    exact absurd (List.length_eq_zero_iff.mp (Nat.le_zero.mp (length_le_of_checkArguments hlimit)))
      halone

/-- The word of a command invokes it, and does not leave the console. -/
theorem ofWord?_word (command : Command) :
    ofWord? command.word = some command ∧ Console.leavingWords.contains command.word = false := by
  cases command <;> decide

/-- A command is invoked by its word alone. -/
theorem word_of_ofWord? {word : String} {command : Command} (h : ofWord? word = some command) :
    word = command.word := by
  have hword := List.find?_some h
  exact (beq_iff_eq.mp hword).symm

end Command

namespace Console

open Command

variable {console : Console} {word : String} {words arguments : List String} {after : Session}

/-- A command is refused when it cannot be run. -/
theorem refusal?_word (command : Command) (arguments : List String) :
    console.refusal? (command.word :: arguments) =
      failureOf? (command.run console.session arguments) := by
  obtain ⟨hfound, hstays⟩ := command.ofWord?_word
  simp only [refusal?, hfound, hstays, Bool.false_eq_true, if_false]

/-- A command word alone is not refused. -/
theorem refusal?_alone (h : isCommandWord word = true) : console.refusal? [word] = none := by
  cases hfound : Command.ofWord? word with
  | some command =>
    obtain ⟨reply, hrun⟩ := command.run_nil console.session
    rw [word_of_ofWord? hfound, refusal?_word, hrun]
    rfl
  | none =>
    have hleaves : leavingWords.contains word = true := by
      simpa [isCommandWord, hfound] using h
    simp only [refusal?, hleaves, if_true]
    rfl

/-- Nothing fails where there is a result. -/
theorem failureOf?_eq_none {ε α : Type} {outcome : Except ε α} :
    failureOf? outcome = none ↔ ∃ result, outcome = .ok result := by
  cases outcome <;> simp [failureOf?]

/-- A command for a recalled unit is carried out when its word is a literal without a metric prefix
and names a unit of the registry. -/
theorem refusal?_unit (console : Console) (token : String) :
    (console.refusal? ["input_unit", token] = none ↔
      ∃ name unit, UnitExpression.read token = .ok (.literal name) ∧
        console.session.registry.lookup name = some unit) ∧
    (console.refusal? ["output_unit", token] = none ↔
      ∃ name unit, UnitExpression.read token = .ok (.literal name) ∧
        console.session.registry.lookup name = some unit) := by
  have hslot : ∀ (command : Command) (slot : Slot),
      command.run console.session [token] = runUnit slot console.session [token] →
      (∀ unit {name}, name ≠ "" →
        ∃ recalled, console.session.remembered.remember slot unit name = .ok recalled) →
      (console.refusal? [command.word, token] = none ↔
        ∃ name unit, UnitExpression.read token = .ok (.literal name) ∧
          console.session.registry.lookup name = some unit) := by
    intro command slot hrun hremember
    rw [refusal?_word, failureOf?_eq_none, hrun]
    constructor
    · rintro ⟨⟨after, reply⟩, h⟩
      obtain ⟨-, name, unit, recalled, hread, hlookup, -, -⟩ := runUnit_eq_ok.mp h
      exact ⟨name, unit, hread, hlookup⟩
    · rintro ⟨name, unit, hread, hlookup⟩
      obtain ⟨recalled, hrecalled⟩ := hremember unit (UnitExpression.ne_empty_of_read hread)
      exact ⟨_, runUnit_eq_ok.mpr ⟨rfl, name, unit, recalled, hread, hlookup, hrecalled, rfl⟩⟩
  exact ⟨hslot .inputUnit .input (run_of_checkArguments rfl)
      fun unit _ hname => ⟨_, remember_input _ unit hname⟩,
    hslot .outputUnit .output (run_of_checkArguments rfl)
      fun unit _ hname => ⟨_, remember_output _ unit hname⟩⟩

/-- What commands may do is not refused. -/
theorem refusal?_of_performs (h : Performs console.session words after) :
    console.refusal? words = none := by
  have hword : ∀ (command : Command) {arguments : List String} {result : Session × String},
      command.run console.session arguments = .ok result →
        console.refusal? (command.word :: arguments) = none := by
    intro command arguments result hrun
    rw [refusal?_word, hrun]
    rfl
  cases h with
  | alone h => exact refusal?_alone h
  | @units words quantity hsome h =>
    have hnamed : words.isEmpty = false := by simpa using hsome
    have hrun : Command.units.run console.session words = runUnits console.session words :=
      run_of_checkArguments rfl
    simp only [runUnits, Registry.listing, hnamed, Bool.false_eq_true, if_false, h] at hrun
    exact hword .units hrun
  | @format name style h =>
    have hrun : Command.format.run console.session [name] = runFormat console.session [name] :=
      run_of_checkArguments rfl
    rw [runFormat_eq_ok.mpr ⟨rfl, style, h, rfl⟩] at hrun
    exact hword .format hrun
  | @value token number h _ =>
    have hrun : Command.value.run console.session [token] = runValue console.session [token] :=
      run_of_checkArguments rfl
    rw [runValue_eq_ok.mpr ⟨rfl, number, h, rfl⟩] at hrun
    exact hword .value hrun
  | @inputUnit token name unit h found _ =>
    exact (console.refusal?_unit token).1.mpr ⟨name, unit, h, found⟩
  | @outputUnit token name unit h found _ =>
    exact (console.refusal?_unit token).2.mpr ⟨name, unit, h, found⟩

/-- A command is carried out as a whole or not at all. -/
structure Atomic (console : Console) (words : List String) : Prop where
  /-- Words that are refused are reported, and the session stays as it was. -/
  refused : ∀ error, console.refusal? words = some error →
    console.FailsOnce error.message (console.executeWords words) ∧
      (console.executeWords words).console.session = console.session
  /-- Other words are carried out, and change what commands may change. -/
  performed : console.refusal? words = none →
    console.Succeeds words (console.executeWords words) ∧
      ∃ after, Performs console.session words after ∧
        (console.executeWords words).console = { console with session := after }
  /-- Words are refused unless they are those of a command that can be carried out. -/
  accepted : console.refusal? words = none ↔ ∃ after, Performs console.session words after

/-- The session after a command word: that of the command, or the same if the words are refused. -/
theorem session_executeWords (h : isCommandWord word = true) (arguments : List String) :
    (∃ error, console.refusal? (word :: arguments) = some error ∧
      (console.executeWords (word :: arguments)).console.session = console.session) ∨
    ∃ after, console.refusal? (word :: arguments) = none ∧
      Performs console.session (word :: arguments) after ∧
      (console.executeWords (word :: arguments)).console = { console with session := after } := by
  cases hleaves : leavingWords.contains word with
  | true =>
    simp only [executeWords, refusal?, hleaves, if_true, leave]
    cases arguments with
    | nil => exact .inr ⟨console.session, rfl, .alone h, rfl⟩
    | cons extra rest => exact .inl ⟨_, rfl, rfl⟩
  | false =>
    simp only [isCommandWord, hleaves, Bool.false_or] at h
    obtain ⟨command, hfound⟩ := Option.isSome_iff_exists.mp h
    simp only [executeWords, refusal?, hleaves, hfound, Bool.false_eq_true, if_false,
      Console.command]
    cases hrun : command.run console.session arguments with
    | error error => exact .inl ⟨error, rfl, rfl⟩
    | ok result =>
      have hperforms := performs_of_run hrun
      rw [← word_of_ofWord? hfound] at hperforms
      exact .inr ⟨result.1, rfl, hperforms, rfl⟩

/-- A word list that starts with a command word is atomic. -/
theorem atomic_of_isCommandWord (h : isCommandWord word = true) (arguments : List String) :
    console.Atomic (word :: arguments) := by
  have hsettles := settles_executeWords console (word :: arguments)
  rcases session_executeWords h arguments with
    ⟨error, hrefusal, hsession⟩ | ⟨after, hrefusal, hperforms, hconsole⟩
  · rw [hrefusal] at hsettles
    constructor
    · intro other hother
      rw [hrefusal] at hother
      cases hother
      exact ⟨hsettles.2, hsession⟩
    · intro hnone
      rw [hrefusal] at hnone
      contradiction
    · constructor
      · intro hnone
        rw [hrefusal] at hnone
        contradiction
      · rintro ⟨after, hperforms⟩
        exact refusal?_of_performs hperforms
  · rw [hrefusal] at hsettles
    constructor
    · intro other hother
      rw [hrefusal] at hother
      contradiction
    · exact fun _ => ⟨hsettles, after, hperforms, hconsole⟩
    · exact ⟨fun _ => ⟨after, hperforms⟩, fun _ => hrefusal⟩

section Deletion

/-- What each of the inputs writes. -/
def outputs (console : Console) (inputs : List Input) : List Transcript :=
  (console.steps inputs).map fun step => (step.1.respond step.2).transcript

/-- The consoles have the same session; they may count different failures. -/
def SameSession (console other : Console) : Prop := other.session = console.session

variable {other : Console} {inputs : List Input}

/-- What words write, and the session after them, do not depend on the failures so far. -/
theorem SameSession.executeWords (h : console.SameSession other) (words : List String) :
    (other.executeWords words).transcript = (console.executeWords words).transcript ∧
      (console.executeWords words).console.SameSession (other.executeWords words).console := by
  cases words with
  | nil => exact ⟨rfl, h⟩
  | cons word arguments =>
    unfold Console.executeWords
    dsimp only
    by_cases hleaves : leavingWords.contains word = true
    · rw [if_pos hleaves, if_pos hleaves]
      unfold leave
      cases checkArguments (some 0) arguments <;> exact ⟨rfl, h⟩
    · rw [if_neg hleaves, if_neg hleaves]
      cases Command.ofWord? word with
      | some found =>
        dsimp only
        unfold Console.command
        rw [h]
        cases found.run console.session arguments with
        | error error => exact ⟨rfl, h⟩
        | ok result => exact ⟨rfl, rfl⟩
      | none =>
        dsimp only
        unfold convert
        rw [h]
        dsimp only
        cases (console.session.perform
            (Request.convertLine console.session.registry (word :: arguments))).1 <;>
          exact ⟨rfl, rfl⟩

/-- What an input writes, and the session after it, do not depend on the failures so far. -/
theorem SameSession.respond (h : console.SameSession other) (input : Input) :
    (other.respond input).transcript = (console.respond input).transcript ∧
      (console.take input).SameSession (other.take input) := by
  rw [take_eq, take_eq, respond_eq, respond_eq]
  cases input.words? with
  | error failure => exact ⟨rfl, h⟩
  | ok words => exact h.executeWords words

/-- So it is with several inputs. -/
theorem SameSession.outputs (h : console.SameSession other) (inputs : List Input) :
    other.outputs inputs = console.outputs inputs ∧
      (console.takeAll inputs).SameSession (other.takeAll inputs) := by
  induction inputs generalizing console other with
  | nil => exact ⟨rfl, h⟩
  | cons input rest ih =>
    obtain ⟨hinput, hnext⟩ := h.respond input
    obtain ⟨hrest, hlast⟩ := ih hnext
    refine ⟨?_, hlast⟩
    unfold Console.outputs at hrest ⊢
    rw [steps, steps, List.map_cons, List.map_cons, hinput, hrest]

/-- A failing command leaves the session as it was. -/
theorem sameSession_of_fails {input : Input} (hcommand : input.isCommand = true)
    (hfails : console.fails input = true) : console.SameSession (console.take input) := by
  rw [take_eq, respond_eq]
  unfold Input.isCommand at hcommand
  unfold fails failure? at hfails
  cases hwords : input.words? with
  | error failure =>
    rw [hwords] at hcommand
    contradiction
  | ok words =>
    rw [hwords] at hcommand hfails
    cases words with
    | nil => contradiction
    | cons word arguments =>
      rcases session_executeWords hcommand arguments with ⟨-, -, hsession⟩ | ⟨-, hrefusal, -⟩
      · exact hsession
      · dsimp only at hfails
        rw [hrefusal] at hfails
        contradiction

/-- A failing input does not leave the console. -/
theorem leaves_of_fails {input : Input} (hfails : console.fails input = true) :
    input.leaves = false := by
  unfold fails failure? at hfails
  unfold Input.leaves
  cases hwords : input.words? with
  | error failure => rfl
  | ok words =>
    rw [hwords] at hfails
    by_contra hleaves
    simp only [Bool.not_eq_false, Bool.or_eq_true, beq_iff_eq] at hleaves
    rcases hleaves with rfl | rfl <;> contradiction

/-- The consoles that are given inputs are those given to each of them. -/
theorem getElem?_of_steps {n : Nat} {step : Console × Input}
    (h : (console.steps inputs)[n]? = some step) : inputs[n]? = some step.2 := by
  induction inputs generalizing console n with
  | nil => contradiction
  | cons input rest ih =>
    cases n with
    | zero =>
      cases h
      rfl
    | succ n => exact ih h

/-- Without one that does not leave the console, the same others are taken. -/
theorem executed_eraseIdx {n : Nat} {input : Input} (h : (executed inputs)[n]? = some input)
    (hstays : input.leaves = false) :
    executed (inputs.eraseIdx n) = (executed inputs).eraseIdx n := by
  induction inputs generalizing n with
  | nil => rfl
  | cons first rest ih =>
    rw [executed_cons] at h ⊢
    cases n with
    | zero =>
      cases h
      rw [List.eraseIdx_zero, List.tail_cons, hstays, List.eraseIdx_zero, List.tail_cons]
      rfl
    | succ n =>
      rw [List.eraseIdx_cons_succ, List.eraseIdx_cons_succ, executed_cons]
      rw [List.getElem?_cons_succ] at h
      cases hleaves : first.leaves with
      | true =>
        rw [hleaves] at h
        contradiction
      | false =>
        rw [hleaves] at h
        exact congrArg (first :: ·) (ih h)

/-- Without an input that leaves the session as it was, the others write the same. -/
theorem outputs_eraseIdx {n : Nat} {step : Console × Input}
    (h : (console.steps inputs)[n]? = some step) (hsame : step.1.SameSession (step.1.take step.2)) :
    console.outputs (inputs.eraseIdx n) = (console.outputs inputs).eraseIdx n ∧
      (console.takeAll (inputs.eraseIdx n)).SameSession (console.takeAll inputs) := by
  induction inputs generalizing console n with
  | nil => contradiction
  | cons input rest ih =>
    cases n with
    | zero =>
      cases h
      obtain ⟨hwrites, hlast⟩ := hsame.outputs rest
      rw [List.eraseIdx_zero, List.tail_cons, List.eraseIdx_zero]
      exact ⟨hwrites.symm, hlast⟩
    | succ n =>
      obtain ⟨hwrites, hlast⟩ := ih h
      rw [List.eraseIdx_cons_succ]
      exact ⟨congrArg ((console.respond input).transcript :: ·) hwrites, hlast⟩

end Deletion

/-- A command is carried out as a whole or not at all. When it is refused the session stays as it
was; when it is carried out it changes what such a command may change, and that is what resolving
its word would leave. A command for a recalled unit is carried out exactly when its word is a literal
without a metric prefix that the registry knows. A batch writes what its lines write, and without a
command that fails the other lines write the same, and the session after them is the same. -/
theorem commands_atomic (console : Console) :
    (∀ word arguments, isCommandWord word = true → console.Atomic (word :: arguments)) ∧
    (∀ token,
      (console.refusal? ["input_unit", token] = none ↔
        ∃ name unit, UnitExpression.read token = .ok (.literal name) ∧
          console.session.registry.lookup name = some unit) ∧
      (console.refusal? ["output_unit", token] = none ↔
        ∃ name unit, UnitExpression.read token = .ok (.literal name) ∧
          console.session.registry.lookup name = some unit)) ∧
    (∀ lines, (console.run none lines).transcript =
      (console.outputs (executed (linesOf lines))).flatten) ∧
    ∀ lines n step, (console.steps (executed (linesOf lines)))[n]? = some step →
      step.2.isCommand = true → step.1.fails step.2 = true →
        console.outputs (executed (linesOf (lines.eraseIdx n))) =
            (console.outputs (executed (linesOf lines))).eraseIdx n ∧
          (console.run none (lines.eraseIdx n)).console.session =
            (console.run none lines).console.session := by
  refine ⟨fun _ arguments h => atomic_of_isCommandWord h arguments, console.refusal?_unit, ?_, ?_⟩
  · intro lines
    have hfold := (isFoldOf_run console lines).fold
    rw [hfold, transcript_foldl_take, List.flatMap_def]
    rfl
  · intro lines n step hstep hcommand hfails
    have hsame := sameSession_of_fails hcommand hfails
    obtain ⟨hwrites, hsession⟩ := outputs_eraseIdx hstep hsame
    have herased : executed (linesOf (lines.eraseIdx n)) =
        (executed (linesOf lines)).eraseIdx n := by
      rw [← executed_eraseIdx (getElem?_of_steps hstep) (leaves_of_fails hfails), linesOf, linesOf,
        List.eraseIdx_map]
    rw [(isFoldOf_run console lines).console, (isFoldOf_run console _).console, herased]
    exact ⟨hwrites, hsession.symm⟩

end Console

end UnitConversion

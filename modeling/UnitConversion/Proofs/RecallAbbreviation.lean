import UnitConversion.Proofs.ConsoleOutput
import UnitConversion.Proofs.LineSplit
import UnitConversion.Proofs.RecallExpansion

/-!
# Recalls are abbreviations

A line in which all recalls are replaced has the outcome of the line wherever it is converted, and
where the line itself is converted it leaves the same behind. This holds for each step that resolves
a word, so it holds for the words of each place in turn, and for the whole line.
-/

namespace UnitConversion

open UnitExpression

variable {registry : Registry} {remembered : Recall}

open Attempt

/-- The literal for a value is resolved as its word is. -/
theorem follows_resolveValue {memory : Memory} {word literal : String}
    (valid : memory.remembered.Valid registry)
    (expands : memory.remembered.Expands .value word literal) :
    Follows memory (resolveValue word) (resolveValue literal) := by
  intro value last h start
  obtain ⟨finish, hfinish, hsame⟩ :=
    valueOf_of_expands valid expands (valueOf_of_runFrom h) start.remembered
  exact ⟨_, by rw [runFrom_resolveValue, hfinish], hsame⟩

/-- The name for a unit is resolved as its word is. -/
theorem follows_resolveUnit {slot : Slot} {memory : Memory} {word literal : String}
    (valid : memory.remembered.Valid registry)
    (expands : ExpandsUnit (memory.remembered.held slot) word literal) :
    Follows memory (resolveUnit registry slot word) (resolveUnit registry slot literal) := by
  intro resolved last h start
  obtain ⟨finish, hfinish, hsame⟩ :=
    unitOf_of_expands valid expands (unitOf_of_runFrom h) start.remembered
  exact ⟨_, by rw [runFrom_resolveUnit, hfinish], hsame⟩

/-- A step for a word in a place: it resolves the word and remembers no more than that. -/
structure Resolves {α : Type} (registry : Registry) (slot : Slot) (step : String → Attempt α) :
    Prop where
  /-- What is recalled is what the word leaves behind. -/
  after : ∀ {word memory result last}, (step word).runFrom memory = (.ok result, last) →
    last.remembered = memory.remembered.after registry slot word
  /-- The step for a word is followed by the step for what stands for the word. -/
  follows : ∀ {word literal memory}, memory.remembered.Valid registry →
    memory.remembered.Expands slot word literal → Follows memory (step word) (step literal)
  /-- Where the step succeeds there is something that stands for the word. -/
  expands : ∀ {word memory result last}, memory.remembered.Valid registry →
    (step word).runFrom memory = (.ok result, last) →
      ∃ literal, memory.remembered.Expands slot word literal
  /-- What stands for the word of a step that succeeds is no recall. -/
  literal : ∀ {word literal memory result last}, memory.remembered.Valid registry →
    (step word).runFrom memory = (.ok result, last) →
      memory.remembered.Expands slot word literal → ∀ metric, literal ≠ recallWord metric
  /-- What is recalled stays valid. -/
  keeps : ∀ word, Keeps (Recall.Valid registry) (step word)

/-- Values are resolved by the words in their place. -/
theorem resolves_resolveValue (registry : Registry) :
    Resolves registry .value resolveValue where
  after := by
    intro word memory value last h
    have hvalue := valueOf_of_runFrom h
    unfold Recall.after
    rw [runOn_eq_runFrom, runFrom_resolveValue, hvalue]
  follows := follows_resolveValue
  expands := by
    intro word memory value last valid h
    by_cases hrecall : word = ValueExpression.recallText
    · subst hrecall
      have hvalue := valueOf_of_runFrom h
      rw [valueOf_recallText] at hvalue
      cases hheld : memory.remembered.value with
      | none => simp [hheld] at hvalue
      | some held =>
        obtain ⟨-, literal, writes⟩ := valid.value held hheld
        exact ⟨literal, .ofRecall hheld writes⟩
    · exact ⟨word, .self hrecall⟩
  literal := by
    intro word literal memory value last valid h expands metric
    rintro rfl
    cases expands with
    | ofRecall remembers writes => exact readNumber_recallWord metric _ writes.2
    | self other =>
      obtain ⟨number, hnumber⟩ := exists_readNumber_of_valueOf other (valueOf_of_runFrom h)
      exact readNumber_recallWord metric number hnumber
  keeps := keeps_resolveValue registry

/-- What is recalled after the word of a unit that is resolved. -/
theorem after_of_unitOf {slot : Slot} (hslot : slot ≠ .value) {word : String}
    {resolved : ResolvedUnit} {last : Recall}
    (h : unitOf registry slot remembered word = .ok (resolved, last)) :
    remembered.after registry slot word = last := by
  have hrun : ((resolveUnit registry slot word).runOn remembered).2.remembered = last := by
    rw [runOn_eq_runFrom, runFrom_resolveUnit, h]
  cases slot with
  | value => exact absurd rfl hslot
  | input => exact hrun
  | output => exact hrun

/-- Units are resolved by the words in their place. -/
theorem resolves_resolveUnit (registry : Registry) (slot : Slot) (hslot : slot ≠ .value) :
    Resolves registry slot (resolveUnit registry slot) where
  after := fun h => (after_of_unitOf hslot (unitOf_of_runFrom h)).symm
  follows := by
    intro word literal memory valid expands
    exact follows_resolveUnit valid ((Recall.expands_iff_expandsUnit hslot).mp expands)
  expands := by
    intro word memory resolved last valid h
    obtain ⟨literal, expands⟩ := exists_expandsUnit (unitOf_of_runFrom h)
    exact ⟨literal, (Recall.expands_iff_expandsUnit hslot).mpr expands⟩
  literal := by
    intro word literal memory resolved last valid h expands
    exact ne_recallWord_of_expandsUnit valid ((Recall.expands_iff_expandsUnit hslot).mp expands)
  keeps := keeps_resolveUnit registry slot

/-- Steps that need no memory may follow the one that resolves a word. -/
theorem Resolves.bind_check {α β γ : Type} {slot : Slot} {step : String → Attempt α}
    (resolves : Resolves registry slot step) (result : α → Except ConversionError β)
    (join : α → β → γ) :
    Resolves registry slot fun word => do
      let value ← step word
      let outcome ← check (result value)
      return join value outcome where
  after := by
    intro word memory value last h
    obtain ⟨first, between, hfirst, hlater⟩ := runFrom_bind_eq_ok.mp h
    obtain ⟨outcome, final, hcheck, hpure⟩ := runFrom_bind_eq_ok.mp hlater
    simp only [runFrom_check, runFrom_pure, Prod.mk.injEq] at hcheck hpure
    rw [← hpure.2, ← hcheck.2]
    exact resolves.after hfirst
  follows := by
    intro word literal memory valid expands
    refine (resolves.follows valid expands).bind fun value between _ => ?_
    exact (follows_check between _).bind fun outcome last _ => follows_pure last _
  expands := by
    intro word memory value last valid h
    obtain ⟨first, between, hfirst, -⟩ := runFrom_bind_eq_ok.mp h
    exact resolves.expands valid hfirst
  literal := by
    intro word literal memory value last valid h expands
    obtain ⟨first, between, hfirst, -⟩ := runFrom_bind_eq_ok.mp h
    exact resolves.literal valid hfirst expands
  keeps := fun word =>
    (resolves.keeps word).bind fun _ => (keeps_check _).bind fun _ => keeps_pure _

/-- The output units are resolved by the words in their place, whatever is converted to them. -/
theorem resolves_column (registry : Registry) (values : List Float) (source : ResolvedUnit) :
    Resolves registry .output (Request.column registry values source) :=
  (resolves_resolveUnit registry .output (by decide)).bind_check
    (Conversion.convertValues values source) Prod.mk

namespace Resolves

variable {α : Type} {slot : Slot} {step : String → Attempt α}

/-- After steps for words in a place is recalled what the words leave behind. -/
theorem afterAll (resolves : Resolves registry slot step) {words : List String}
    {memory last : Memory} {results : List α}
    (h : (words.mapM step).runFrom memory = (.ok results, last)) :
    last.remembered = memory.remembered.afterAll registry slot words := by
  induction words generalizing memory results with
  | nil =>
    cases h
    rfl
  | cons word words ih =>
    obtain ⟨first, between, rest, hfirst, hrest, -⟩ := runFrom_mapM_cons_eq_ok.mp h
    have hbetween := resolves.after hfirst
    rw [ih hrest, hbetween]
    rfl

/-- Steps for words in a place are followed by the steps for what stands for the words. -/
theorem followsAll (resolves : Resolves registry slot step) {words literals : List String}
    {memory : Memory} (valid : memory.remembered.Valid registry)
    (expands : memory.remembered.ExpandsAll registry slot words literals) :
    Follows memory (words.mapM step) (literals.mapM step) := by
  generalize hremembered : memory.remembered = remembered at valid expands
  induction expands generalizing memory with
  | nil => exact follows_pure memory []
  | @cons remembered word literal words literals first rest ih =>
    subst hremembered
    rw [List.mapM_cons, List.mapM_cons]
    refine (resolves.follows valid first).bind fun value between hvalue => ?_
    have hkept := resolves.keeps word memory valid
    rw [hvalue] at hkept
    have hafter := resolves.after hvalue
    rw [hafter] at hkept
    refine (ih hafter hkept).bind fun values last _ => follows_pure last _

/-- Where steps for words succeed there are words that stand for these. -/
theorem expandsAll (resolves : Resolves registry slot step) {words : List String}
    {memory last : Memory} {results : List α} (valid : memory.remembered.Valid registry)
    (h : (words.mapM step).runFrom memory = (.ok results, last)) :
    ∃ literals, memory.remembered.ExpandsAll registry slot words literals := by
  induction words generalizing memory results with
  | nil => exact ⟨[], .nil⟩
  | cons word words ih =>
    obtain ⟨first, between, rest, hfirst, hrest, -⟩ := runFrom_mapM_cons_eq_ok.mp h
    have hkept := resolves.keeps word memory valid
    rw [hfirst] at hkept
    obtain ⟨literal, expands⟩ := resolves.expands valid hfirst
    obtain ⟨literals, later⟩ := ih hkept hrest
    rw [resolves.after hfirst] at later
    exact ⟨literal :: literals, .cons expands later⟩

/-- What stands for words that are resolved holds no recall. -/
theorem literalAll (resolves : Resolves registry slot step) {words literals : List String}
    {memory last : Memory} {results : List α} (valid : memory.remembered.Valid registry)
    (h : (words.mapM step).runFrom memory = (.ok results, last))
    (expands : memory.remembered.ExpandsAll registry slot words literals) :
    ∀ literal ∈ literals, ∀ metric, literal ≠ recallWord metric := by
  generalize hremembered : memory.remembered = remembered at valid expands
  induction expands generalizing memory results with
  | nil => simp
  | @cons remembered word literal words literals first rest ih =>
    subst hremembered
    obtain ⟨value, between, later, hvalue, hlater, -⟩ := runFrom_mapM_cons_eq_ok.mp h
    have hkept := resolves.keeps word memory valid
    rw [hvalue] at hkept
    have hafter := resolves.after hvalue
    rw [hafter] at hkept
    intro other hother
    rcases List.mem_cons.mp hother with rfl | hin
    · exact resolves.literal valid hvalue first
    · exact ih hlater hafter hkept other hin

end Resolves

/-- The steps of converting a line, its words split into their roles. -/
def convertRoles (registry : Registry) (roles : Request.Split) :
    Attempt (List FinishedConversion) := do
  let values ← roles.values.mapM resolveValue
  let source ← resolveUnit registry .input roles.input
  let columns ← roles.outputs.mapM (Request.column registry values source)
  return Request.grid source values columns

/-- A line is converted by the roles of its words. -/
theorem runFrom_convertLine {words : List String} {roles : Request.Split}
    (h : Request.split words = .ok roles) (memory : Memory) :
    (Request.convertLine registry words).runFrom memory =
      (convertRoles registry roles).runFrom memory := by
  unfold Request.convertLine
  rw [runFrom_bind, runFrom_check, h]
  rfl

/-- A line that is converted has words with roles. -/
theorem exists_split_of_convertLine {words : List String} {memory last : Memory}
    {conversions : List FinishedConversion}
    (h : (Request.convertLine registry words).runFrom memory = (.ok conversions, last)) :
    ∃ roles, Request.split words = .ok roles ∧
      (convertRoles registry roles).runFrom memory = (.ok conversions, last) := by
  cases hsplit : Request.split words with
  | error error =>
    unfold Request.convertLine at h
    rw [runFrom_bind, runFrom_check, hsplit] at h
    simp at h
  | ok roles =>
    rw [runFrom_convertLine hsplit] at h
    exact ⟨roles, rfl, h⟩

/-- The words that stand for those of a line have the same roles. -/
theorem fits_of_expands {roles : Request.Split} {values outputs : List String} {input : String}
    {atValues atInput atOutputs : Recall} (valid : atInput.Valid registry) (fits : roles.Fits)
    (expandsValues : atValues.ExpandsAll registry .value roles.values values)
    (expandsInput : atInput.Expands .input roles.input input)
    (expandsOutputs : atOutputs.ExpandsAll registry .output roles.outputs outputs) :
    (Request.Split.mk values input outputs).Fits where
  values := by
    rw [← List.length_pos_iff, expandsValues.length]
    exact List.length_pos_iff.mpr fits.values
  looks := expandsValues.looks_tail fits.looks
  outputs := by
    rw [← List.length_pos_iff, expandsOutputs.length]
    exact List.length_pos_iff.mpr fits.outputs
  input := by
    rcases fits.input with hinput | hlast
    · exact .inl (looksLikeValue_of_expandsUnit .input valid expandsInput hinput)
    · exact .inr (by rw [expandsOutputs.length, hlast])

/-- What stands for the words of a line that is converted: it exists, and whatever it is, it holds
no recall and is converted alike. -/
theorem runFrom_of_expandsLine {words : List String} {memory last : Memory}
    {conversions : List FinishedConversion} (valid : memory.remembered.Valid registry)
    (h : (Request.convertLine registry words).runFrom memory = (.ok conversions, last)) :
    (∃ literals, memory.remembered.ExpandsLine registry words literals) ∧
    ∀ literals, memory.remembered.ExpandsLine registry words literals →
      (∀ literal ∈ literals, ∀ metric, literal ≠ recallWord metric) ∧
      Follows memory (Request.convertLine registry words)
        (Request.convertLine registry literals) := by
  obtain ⟨roles, hroles, hrun⟩ := exists_split_of_convertLine h
  obtain ⟨values, afterValues, hvalues, hrest⟩ := runFrom_bind_eq_ok.mp hrun
  obtain ⟨source, afterInput, hsource, hlater⟩ := runFrom_bind_eq_ok.mp hrest
  obtain ⟨columns, afterOutputs, hcolumns, -⟩ := runFrom_bind_eq_ok.mp hlater
  have resolvesValue := resolves_resolveValue registry
  have resolvesInput := resolves_resolveUnit registry .input (by decide)
  have resolvesOutput := resolves_column registry values source
  -- What is recalled stays valid from each place to the next, and what stands for the words of a
  -- place is settled by what is recalled when it is reached.
  have validValues := Keeps.mapM resolvesValue.keeps roles.values memory valid
  rw [hvalues] at validValues
  have validInput := resolvesInput.keeps roles.input afterValues validValues
  rw [hsource] at validInput
  have hafterValues := resolvesValue.afterAll hvalues
  have hafterInput := resolvesInput.after hsource
  constructor
  · obtain ⟨first, hfirst⟩ := resolvesValue.expandsAll valid hvalues
    obtain ⟨second, hsecond⟩ := resolvesInput.expands validValues hsource
    obtain ⟨third, hthird⟩ := resolvesOutput.expandsAll validInput hcolumns
    rw [hafterInput, hafterValues] at hthird
    rw [hafterValues] at hsecond
    exact ⟨_, roles, first, second, third, hroles, rfl, hfirst, hsecond, hthird⟩
  · rintro literals ⟨other, first, second, third, hother, rfl, hfirst, hsecond, hthird⟩
    obtain rfl : roles = other := by simpa [hroles] using hother
    rw [← hafterValues] at hsecond hthird
    rw [← hafterInput] at hthird
    constructor
    · intro literal hin
      rcases List.mem_append.mp hin with hin | hin
      · exact resolvesValue.literalAll valid hvalues hfirst literal hin
      · rcases List.mem_cons.mp hin with rfl | hin
        · exact resolvesInput.literal validValues hsource hsecond
        · exact resolvesOutput.literalAll validInput hcolumns hthird literal hin
    · have hsplit : Request.split (first ++ second :: third) = .ok ⟨first, second, third⟩ :=
        Request.split_eq_ok_iff.mpr ⟨rfl, fits_of_expands validValues
          (Request.split_eq_ok_iff.mp hroles).2 hfirst hsecond hthird⟩
      have hfollows : Follows memory (convertRoles registry roles)
          (convertRoles registry ⟨first, second, third⟩) := by
        refine (resolvesValue.followsAll valid hfirst).bind fun number between hnumber => ?_
        rw [hvalues] at hnumber
        cases hnumber
        refine (resolvesInput.follows validValues hsecond).bind fun unit between hunit => ?_
        rw [hsource] at hunit
        cases hunit
        refine (resolvesOutput.followsAll validInput hthird).bind fun targets between _ => ?_
        exact follows_pure between _
      intro result final hresult start
      rw [runFrom_convertLine hroles] at hresult
      rw [runFrom_convertLine hsplit]
      exact hfollows result final hresult start

/-- The console with nothing recalled. -/
def Console.forgetful (console : Console) : Console :=
  { console with session := { console.session with remembered := .empty } }

/-- The recalls on a line are abbreviations: there are words that stand for those of the line, and
whichever they are, they do what the line does. -/
structure Console.Abbreviates (console : Console) (words : List String)
    (conversions : List FinishedConversion) : Prop where
  /-- There are words that stand for those of the line. -/
  expands : ∃ literals,
    console.session.remembered.ExpandsLine console.session.registry words literals
  /-- None of them is a recall. -/
  literal : ∀ literals,
    console.session.remembered.ExpandsLine console.session.registry words literals →
      ∀ literal ∈ literals, ∀ metric, literal ≠ recallWord metric
  /-- They give the conversions where nothing is recalled. -/
  fresh : ∀ literals,
    console.session.remembered.ExpandsLine console.session.registry words literals →
      (console.forgetful.session.perform
        (Request.convertLine console.session.registry literals)).1 = .ok conversions
  /-- There they write what the line writes. -/
  output : ∀ literals,
    console.session.remembered.ExpandsLine console.session.registry words literals →
      ∀ quiet, (console.forgetful.convert literals).transcript.out quiet =
        (console.convert words).transcript.out quiet
  /-- Where the line stands they give the conversions and leave the session that it leaves. -/
  session : ∀ literals,
    console.session.remembered.ExpandsLine console.session.registry words literals →
      (console.session.perform (Request.convertLine console.session.registry literals)).1 =
          .ok conversions ∧
        (console.session.perform (Request.convertLine console.session.registry literals)).2.1 =
          (console.session.perform (Request.convertLine console.session.registry words)).2.1

/-- After whatever a console was given from the start, the recalls on a line that is converted are
abbreviations. -/
theorem recalls_abbreviate (registry : Registry) (style : OutputStyle) (precision : Precision)
    (inputs : List Console.Input) {words : List String} {conversions : List FinishedConversion}
    (h : (((Console.start (.start registry style precision)).takeAll inputs).session.perform
      (Request.convertLine registry words)).1 = .ok conversions) :
    ((Console.start (.start registry style precision)).takeAll inputs).Abbreviates words
      conversions := by
  have valid := Console.valid_takeAll_start registry style precision inputs
  generalize (Console.start (.start registry style precision)).takeAll inputs = console at h valid
  obtain rfl : console.session.registry = registry := valid.units
  have hrun : (Request.convertLine console.session.registry words).runFrom
      ⟨console.session.remembered, []⟩ = (.ok conversions,
        ((Request.convertLine console.session.registry words).runOn
          console.session.remembered).2) := Prod.ext h rfl
  obtain ⟨hexists, hall⟩ := runFrom_of_expandsLine valid.recalled hrun
  have hanywhere := fun literals expands => (hall literals expands).2 conversions _ hrun
  have hfresh : ∀ literals,
      console.session.remembered.ExpandsLine console.session.registry words literals →
        (console.forgetful.session.perform
          (Request.convertLine console.session.registry literals)).1 = .ok conversions := by
    intro literals expands
    obtain ⟨finish, hfinish, -⟩ := hanywhere literals expands ⟨Recall.empty, []⟩
    exact congrArg Prod.fst hfinish
  refine ⟨hexists, fun literals expands => (hall literals expands).1, hfresh, ?_, ?_⟩
  · intro literals expands quiet
    rw [Console.out_convert (hfresh literals expands), Console.out_convert h]
    rfl
  · intro literals expands
    obtain ⟨finish, hfinish, hsame⟩ :=
      hanywhere literals expands ⟨console.session.remembered, []⟩
    have hremembered : ((Request.convertLine console.session.registry literals).runOn
        console.session.remembered).2.remembered = finish.remembered :=
      congrArg (fun run => run.2.remembered) hfinish
    refine ⟨congrArg Prod.fst hfinish, ?_⟩
    unfold Session.perform
    dsimp only
    rw [hremembered, hsame rfl]

/-- A registry with one unit. -/
def metreRegistry : Registry :=
  ⟨[{ names := ["metre", "m"]
      quantity := .length
      factor := 1
      offset := 0
      dimensions := 1
      inverse := false
      names_ne_nil := by decide
      names_nodup := by decide
      factor_valid := by decide +kernel
      offset_finite := by decide +kernel
      dimensions_valid := by decide }]⟩

/-- A line with all kinds of recalls: of a value, of the input unit under its alias, and of the
output unit with a metric prefix. -/
theorem recalls_abbreviate_metres : ∃ conversions,
    (((Console.start (.start metreRegistry .simple .standard)).takeAll
      [.line "3 m metre"]).session.perform
        (Request.convertLine metreRegistry [":", "4", ":", "_c:"])).1 = .ok conversions ∧
    ((Console.start (.start metreRegistry .simple .standard)).takeAll
      [.line "3 m metre"]).Abbreviates [":", "4", ":", "_c:"] conversions := by
  have hok : (((Console.start (.start metreRegistry .simple .standard)).takeAll
      [.line "3 m metre"]).session.perform
        (Request.convertLine metreRegistry [":", "4", ":", "_c:"])).1.isOk = true := by
    decide +kernel
  cases h : (((Console.start (.start metreRegistry .simple .standard)).takeAll
      [.line "3 m metre"]).session.perform
        (Request.convertLine metreRegistry [":", "4", ":", "_c:"])).1 with
  | error error =>
    rw [h] at hok
    contradiction
  | ok conversions =>
    exact ⟨conversions, rfl, recalls_abbreviate metreRegistry .simple .standard _ h⟩

end UnitConversion

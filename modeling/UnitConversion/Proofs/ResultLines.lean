import UnitConversion.CommandLine.Startup
import UnitConversion.Proofs.FiniteConversions
import UnitConversion.Proofs.RoutedOutput
import UnitConversion.Proofs.StartupRuns
import UnitConversion.Proofs.UnitNames

/-!
# Results keep to their lines

No name in a units file goes on behind a line break, and a number has no line break either. So a
result is one line, and what a record holds is read back line by line as the results that were
written.
-/

namespace UnitConversion

open Text

namespace Line

/-- Texts on one line stand behind each other on one line. -/
theorem OneLine.append {first second : String} (hfirst : OneLine first)
    (hsecond : OneLine second) : OneLine (first ++ second) := by
  intro c hc
  rw [String.toList_append, List.mem_append] at hc
  exact hc.elim (hfirst c) (hsecond c)

/-- Nothing that stands on one line holds a line feed. -/
theorem OneLine.not_mem {text : String} (h : OneLine text) : '\n' ∉ text.toList := by
  intro hin
  have hbreak := h '\n' hin
  contradiction

/-- A numeral stands on one line. -/
theorem oneLine_of_isNumeral {text : String} (h : Numeric.IsNumeral text) : OneLine text := by
  obtain ⟨negative, coefficient, exponent, hread⟩ := h
  have hbreaks : Numeric.isLiteralChar '\r' = false ∧ Numeric.isLiteralChar '\n' = false := by
    decide
  have hchars := List.all_eq_true.mp (Numeric.all_isLiteralChar_of_ofChars? hread)
  intro c hc
  have hchar := hchars c hc
  simp only [isBreak, Bool.or_eq_false_iff, decide_eq_false_iff_not]
  constructor
  · rintro rfl
    rw [hbreaks.1] at hchar
    contradiction
  · rintro rfl
    rw [hbreaks.2] at hchar
    contradiction

end Line

/-- Every name in the registry stands on one line. -/
def Registry.OneLine (registry : Registry) : Prop :=
  ∀ unit ∈ registry.units, ∀ name ∈ unit.names, Line.OneLine name

namespace UnitsFile

/-- The units that lines declare have names on one line. -/
theorem oneLine_of_load {limit : DigitLimit} {lines : List String} {loaded : Loaded}
    (h : load limit lines = .ok loaded) : loaded.registry.OneLine :=
  fun _ hunit _ hname => (isName_of_load h hunit hname).oneLine

/-- So have they where a failure leaves none. -/
theorem oneLine_loadOrNone (lines : List String) : (loadOrNone lines).registry.OneLine := by
  unfold loadOrNone
  split
  · rename_i loaded hload
    exact oneLine_of_load hload
  · intro unit hunit
    simp [Registry.empty] at hunit

/-- So have all units that are read. -/
theorem oneLine_of_read {tree : FileTree} {source : Source} {loaded : Loaded}
    (h : (source.read tree).outcome = .ok loaded) : loaded.registry.OneLine := by
  cases source with
  | stock =>
    rw [Source.read, Except.ok.injEq] at h
    rw [← h]
    exact oneLine_loadOrNone stockLines
  | file path =>
    unfold Source.read fromFile at h
    dsimp only at h
    split at h
    · contradiction
    · rename_i bytes hbytes
      unfold readDecoded at h
      split at h
      · contradiction
      · rename_i reader hreader
        split at h
        · contradiction
        · have hload : load digitLimit (decode true bytes).lines = .ok loaded := by
            unfold load
            rw [hreader]
            exact congrArg Except.ok (Except.ok.inj h)
          exact oneLine_of_load hload

end UnitsFile

/-- The units that a startup loads have names on one line. -/
theorem CommandLine.oneLine_of_startup {environment : Environment} {tree : FileTree}
    {arguments : CommandLine.Arguments} {settings : Settings} {registry : Registry}
    (h : CommandLine.Startup.outcome environment tree arguments = .ok (settings, registry)) :
    registry.OneLine := by
  unfold Startup.outcome at h
  obtain ⟨found, -, hrest⟩ := Outcome.bind_eq_ok.mp h
  obtain ⟨source, -, hlater⟩ := Outcome.bind_eq_ok.mp hrest
  obtain ⟨read, hread, hpair⟩ := Outcome.bind_eq_ok.mp hlater
  obtain ⟨loaded, hloaded, hregistry⟩ := Outcome.bind_eq_ok.mp hread
  have hsame : read = registry := congrArg Prod.snd (Outcome.pure_eq_ok.mp hpair)
  rw [← hsame, ← Except.ok.inj hregistry]
  exact UnitsFile.oneLine_of_read hloaded

namespace Attempt

variable {α β : Type} {holds : Recall → Prop}

/-- An attempt that starts where the property holds and succeeds keeps it, and its value has another
property. -/
def Yields (holds : Recall → Prop) (post : α → Prop) (attempt : Attempt α) : Prop :=
  ∀ memory value last, holds memory.remembered → attempt.runFrom memory = (.ok value, last) →
    holds last.remembered ∧ post value

/-- A step that needs no memory yields what its outcome is. -/
theorem yields_check {result : Except ConversionError α} {post : α → Prop}
    (h : ∀ value, result = .ok value → post value) : Yields holds post (check result) := by
  intro memory value last hholds hrun
  simp only [runFrom_check, Prod.mk.injEq] at hrun
  rw [← hrun.2]
  exact ⟨hholds, h value hrun.1⟩

/-- At least it yields a value. -/
theorem yields_check_any (result : Except ConversionError α) :
    Yields holds (fun _ => True) (check result) :=
  yields_check fun _ _ => trivial

/-- A step that only returns a value yields what holds of that. -/
theorem yields_pure {value : α} {post : α → Prop} (h : post value) :
    Yields holds post (pure value) := by
  have hcheck : Yields holds post (check (.ok value)) := by
    refine yields_check fun other hother => ?_
    cases hother
    exact h
  exact hcheck

/-- The second step may use what the first one yields. -/
theorem Yields.bind {first : Attempt α} {next : α → Attempt β} {middle : α → Prop}
    {post : β → Prop} (hfirst : Yields holds middle first)
    (hnext : ∀ value, middle value → Yields holds post (next value)) :
    Yields holds post (first >>= next) := by
  intro memory result last hholds hrun
  obtain ⟨value, between, hvalue, hlater⟩ := runFrom_bind_eq_ok.mp hrun
  obtain ⟨hbetween, hmiddle⟩ := hfirst memory value between hholds hvalue
  exact hnext value hmiddle between result last hbetween hlater

/-- What every step for a word yields holds of all results. -/
theorem Yields.mapM {step : String → Attempt α} {post : α → Prop}
    (hstep : ∀ word, Yields holds post (step word)) (words : List String) :
    Yields holds (fun results => ∀ result ∈ results, post result) (words.mapM step) := by
  induction words with
  | nil => exact yields_pure (by simp)
  | cons word words ih =>
    rw [List.mapM_cons]
    refine (hstep word).bind fun first hfirst => ?_
    refine ih.bind fun rest hrest => ?_
    exact yields_pure (List.forall_mem_cons.mpr ⟨hfirst, hrest⟩)

end Attempt

/-- The unit was found: the registry has it under the name that was used, and nothing but a metric
prefix stands before that. -/
structure ResolvedUnit.Found (registry : Registry) (resolved : ResolvedUnit) : Prop where
  /-- A name was used. -/
  named : resolved.typedName ≠ ""
  /-- The registry finds the unit under it. -/
  found : registry.lookup resolved.typedName = some resolved.unit
  /-- A metric prefix may stand before the name. -/
  metric : ∃ metric, resolved.prefixText = (prefixParts metric).2

/-- A unit that was found is shown on one line. -/
theorem ResolvedUnit.Found.oneLine {registry : Registry} {resolved : ResolvedUnit}
    (found : resolved.Found registry) (h : registry.OneLine) :
    Line.OneLine resolved.displayName := by
  obtain ⟨hunit, hname⟩ := Registry.mem_of_lookup found.found
  obtain ⟨metric, hmetric⟩ := found.metric
  have hprefix : Line.OneLine (prefixParts metric).2 := by
    cases metric with
    | none => simp [prefixParts, Line.OneLine]
    | some metric => cases metric <;> decide
  have hsome : resolved.typedName.isEmpty = false := by simpa using found.named
  unfold displayName
  rw [hsome, if_neg Bool.false_ne_true, hmetric]
  exact hprefix.append (h resolved.unit hunit resolved.typedName hname)

/-- A word for a unit stands for one that is found. -/
theorem found_of_unitOf {registry : Registry} {slot : Slot} {remembered last : Recall}
    {word : String} {resolved : ResolvedUnit} (valid : remembered.Valid registry)
    (h : unitOf registry slot remembered word = .ok (resolved, last)) :
    resolved.Found registry := by
  cases hread : UnitExpression.read word with
  | error error => simp [unitOf, hread] at h
  | ok expression =>
    obtain ⟨metric, ⟨-, rfl⟩ | ⟨name, hname, rfl⟩⟩ := UnitExpression.read_eq_ok hread
    · rw [unitOf_of_recallOf hread] at h
      obtain ⟨recalled, hheld, -, rfl⟩ := recalledUnitOf_eq_ok h
      obtain ⟨hnamed, hfound⟩ := valid.unit slot recalled hheld
      exact ⟨hnamed, hfound, metric, rfl⟩
    · rw [unitOf_of_literalOf hread] at h
      obtain ⟨unit, hlookup, -, rfl⟩ := foundUnitOf_eq_ok h
      exact ⟨hname, hlookup, metric, rfl⟩

/-- Resolving a word for a unit yields one that is found. -/
theorem yields_resolveUnit (registry : Registry) (slot : Slot) (word : String) :
    Attempt.Yields (Recall.Valid registry) (ResolvedUnit.Found registry)
      (resolveUnit registry slot word) := by
  intro memory resolved last valid hrun
  have hunit := unitOf_of_runFrom hrun
  exact ⟨valid_of_unitOf valid hunit, found_of_unitOf valid hunit⟩

/-- Resolving a word for a value yields some number. -/
theorem yields_resolveValue (registry : Registry) (word : String) :
    Attempt.Yields (Recall.Valid registry) (fun _ => True) (resolveValue word) := by
  intro memory value last valid hrun
  exact ⟨valid_of_valueOf valid (valueOf_of_runFrom hrun), trivial⟩

/-- Both units of the conversion were found. -/
def FinishedConversion.Found (registry : Registry) (conversion : FinishedConversion) : Prop :=
  conversion.source.Found registry ∧ conversion.target.Found registry

namespace Request

/-- The conversions of a grid have its source and the units of its columns. -/
theorem found_grid {registry : Registry} {source : ResolvedUnit} {values : List Float}
    {columns : List (ResolvedUnit × List Float)} (hsource : source.Found registry)
    (hcolumns : ∀ column ∈ columns, column.1.Found registry) :
    ∀ conversion ∈ grid source values columns, conversion.Found registry := by
  intro conversion hin
  obtain ⟨⟨value, row⟩, -, hcolumn⟩ := List.mem_flatMap.mp hin
  obtain ⟨column, hmem, rfl⟩ := List.mem_map.mp hcolumn
  exact ⟨hsource, hcolumns column hmem⟩

/-- A line yields conversions between units that are found. -/
theorem yields_convertLine (registry : Registry) (words : List String) :
    Attempt.Yields (Recall.Valid registry)
      (fun conversions => ∀ conversion ∈ conversions, conversion.Found registry)
      (convertLine registry words) := by
  refine (Attempt.yields_check_any _).bind fun roles _ => ?_
  refine (Attempt.Yields.mapM (yields_resolveValue registry) _).bind fun values _ => ?_
  refine (yields_resolveUnit registry .input _).bind fun source hsource => ?_
  have hcolumn : ∀ word, Attempt.Yields (Recall.Valid registry)
      (fun column => column.1.Found registry) (column registry values source word) := by
    intro word
    refine (yields_resolveUnit registry .output word).bind fun target htarget => ?_
    refine (Attempt.yields_check_any _).bind fun _ _ => ?_
    exact Attempt.yields_pure htarget
  refine (Attempt.Yields.mapM hcolumn _).bind fun columns hcolumns => ?_
  exact Attempt.yields_pure (found_grid hsource hcolumns)

end Request

/-- A conversion of finite numbers between units that were found is shown on one line. -/
theorem FinishedConversion.oneLine_render {registry : Registry} {conversion : FinishedConversion}
    (h : registry.OneLine) (found : conversion.Found registry) (finite : conversion.Finite)
    (style : OutputStyle) (precision : Precision) :
    Line.OneLine (conversion.render style precision) := by
  have hvalue := Line.oneLine_of_isNumeral (isNumeral_formatNumber precision finite.value)
  have hresult := Line.oneLine_of_isNumeral (isNumeral_formatNumber precision finite.result)
  have hsource := found.1.oneLine h
  have htarget := found.2.oneLine h
  have hblank : Line.OneLine " " := by decide
  have hequals : Line.OneLine " = " := by decide
  unfold render OutputStyle.compose
  cases style with
  | simple => exact hresult
  | descriptive => exact (hresult.append hblank).append htarget
  | verbose =>
    exact (((((hvalue.append hblank).append hsource).append hequals).append hresult).append
      hblank).append htarget

namespace Console

variable {registry : Registry} {console : Console}

/-- The results of an input stand on one line each. -/
theorem oneLine_resultsTo (valid : console.session.Valid registry) (h : registry.OneLine)
    (input : Input) : ∀ result ∈ console.resultsTo input, Line.OneLine result := by
  unfold resultsTo
  split
  · simp
  · rename_i words hwords
    split
    · split
      · simp
      · rename_i conversions houtcome
        have hrun : (Request.convertLine console.session.registry words).runFrom
            ⟨console.session.remembered, []⟩ = (.ok conversions, _) := Prod.ext houtcome rfl
        have hfinite := Request.finite_of_convertLine hrun
        rw [valid.units] at hrun
        have hfound := (Request.yields_convertLine registry words _ _ _ valid.recalled hrun).2
        intro result hin
        obtain ⟨conversion, hmem, rfl⟩ := List.mem_map.mp hin
        exact (conversion.oneLine_render h (hfound conversion hmem) (hfinite conversion hmem) _ _)
    · simp

/-- So do the results of any inputs. -/
theorem oneLine_resultsOf (valid : console.session.Valid registry) (h : registry.OneLine)
    (inputs : List Input) : ∀ result ∈ console.resultsOf inputs, Line.OneLine result := by
  induction inputs generalizing console with
  | nil => simp [resultsOf, steps]
  | cons input rest ih =>
    have hfirst := oneLine_resultsTo valid h input
    have hrest := ih (valid_takeAll valid [input])
    unfold resultsOf at hrest ⊢
    rw [steps, List.flatMap_cons]
    exact List.forall_mem_append.mpr ⟨hfirst, hrest⟩

end Console

/-- Texts that are written on one line each are read back line by line. -/
theorem Transcript.lines_lined {texts : List String} (h : ∀ text ∈ texts, Line.OneLine text) :
    Text.lines (lined texts) = texts.map (· ++ "\n") := by
  have hlast : ∀ line ∈ texts.map (· ++ "\n"), line.toList.getLast? = some '\n' := by
    intro line hin
    obtain ⟨text, -, rfl⟩ := List.mem_map.mp hin
    simp
  have hlines : AreLinesOf (texts.map (· ++ "\n")) (lined texts) := by
    constructor
    · rfl
    · rintro line hin rfl
      have hend := hlast "" hin
      contradiction
    · intro line hin
      obtain ⟨text, htext, rfl⟩ := List.mem_map.mp hin
      simpa using (h text htext).not_mem
    · intro line hin
      exact hlast line (List.mem_of_mem_dropLast hin)
  exact hlines.eq_lines.symm

end UnitConversion

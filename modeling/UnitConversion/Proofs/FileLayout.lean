import Mathlib.Data.List.Forall2
import Mathlib.Data.Option.Basic
import UnitConversion.Proofs.EntryLayout
import UnitConversion.UnitsFile.Reader

/-!
# The layout of a units file

A units file may be laid out in many ways: lines that hold nothing may be inserted, and the layout of
every line may change. The same units come of it, and the same warnings, about the lines where the
old ones now stand and with what these have become where a line is echoed.
-/

namespace UnitConversion.UnitsFile

open Text

/-- A line of a file whose layout changes. -/
inductive Row
  /-- A line of the file, and what becomes of it. -/
  | kept (old new : String) (relaid : Relation.ReflTransGen Relaid old new)
  /-- A line that is inserted. -/
  | inserted (line : String) (void : IsVoid line)

/-- The line as it was, if there was one. -/
def Row.old? : Row → Option String
  | kept old _ _ => some old
  | inserted _ _ => none

/-- The line as it is. -/
def Row.new : Row → String
  | kept _ new _ => new
  | inserted line _ => line

/-- The lines of the file as they were. -/
def oldLines (rows : List Row) : List String := rows.filterMap Row.old?

/-- The lines of the file as they are. -/
def newLines (rows : List Row) : List String := rows.map Row.new

/-- The line with the first number has become the line with the second number, and this is what it
was and is. -/
def Becomes (rows : List Row) (line moved : Nat) (old new : String) : Prop :=
  ∃ before relaid after, rows = before ++ .kept old new relaid :: after ∧
    line = (oldLines before).length + 1 ∧ moved = before.length + 1

/-- The warnings are about the same line, wherever it stands, and the same problem. Where that is the
line itself, each shows it as it was or is. -/
def Warning.Moved (rows : List Row) (warning moved : Warning) : Prop :=
  ∃ old new, Becomes rows warning.line moved.line old new ∧
    (moved.problem = warning.problem ∨
      warning.problem = .unrecognized old ∧ moved.problem = .unrecognized new)

/-- The declarations are the same, but for where the line of the header stands. -/
structure Declaration.Moved (rows : List Row) (declaration moved : Declaration) : Prop where
  /-- The primary name. -/
  name : moved.name = declaration.name
  /-- The settings. -/
  settings : moved.settings = declaration.settings
  /-- The line of the header. -/
  line : ∃ old new, Becomes rows declaration.line moved.line old new

/-- The readers know the same, but for where the lines stand. -/
structure Reader.Moved (rows : List Row) (reader moved : Reader) : Prop where
  /-- The units declared so far. -/
  registry : moved.registry = reader.registry
  /-- The warnings so far. -/
  warnings : List.Forall₂ (Warning.Moved rows) reader.warnings moved.warnings
  /-- The declaration that is open. -/
  current : Option.Rel (Declaration.Moved rows) reader.current moved.current

/-- Both steps fail in the same way, or they come to values that are related. -/
inductive Together {ε α : Type} (related : α → α → Prop) : Except ε α → Except ε α → Prop
  /-- Both steps succeed. -/
  | ok {value other : α} (h : related value other) : Together related (.ok value) (.ok other)
  /-- Both steps fail. -/
  | error (failure : ε) : Together related (.error failure) (.error failure)

variable {rows : List Row} {reader moved : Reader} {declaration other : Declaration}
  {line position : Nat} {old new : String}

/-- After steps that go together, steps that go together for related values go together. -/
theorem Together.bind {ε α : Type} {related : α → α → Prop} {first second : Except ε α}
    {next after : α → Except ε α} (h : Together related first second)
    (hnext : ∀ value other, related value other → Together related (next value) (after other)) :
    Together related (first >>= next) (second >>= after) := by
  cases h with
  | ok h => exact hnext _ _ h
  | error failure => exact .error failure

namespace Reader.Moved

/-- Readers that report warnings about the same go on knowing the same. -/
theorem warn (h : reader.Moved rows moved) {problem report : Problem}
    (hwarning : Warning.Moved rows ⟨line, problem⟩ ⟨position, report⟩) :
    (reader.warn line problem).Moved rows (moved.warn position report) :=
  ⟨h.registry, List.rel_append h.warnings (.cons hwarning .nil), h.current⟩

/-- So they do when they report the same problem with the same line. -/
theorem warn_same (h : reader.Moved rows moved)
    (hline : ∃ old new, Becomes rows line position old new) (problem : Problem) :
    (reader.warn line problem).Moved rows (moved.warn position problem) := by
  obtain ⟨old, new, hbecomes⟩ := hline
  exact h.warn ⟨old, new, hbecomes, .inl rfl⟩

/-- So they do with another declaration open, if it is the same for both. -/
theorem open_same (h : reader.Moved rows moved) {current next : Option Declaration}
    (hcurrent : Option.Rel (Declaration.Moved rows) current next) :
    ({ reader with current } : Reader).Moved rows { moved with current := next } :=
  ⟨h.registry, h.warnings, hcurrent⟩

/-- They add the same unit. -/
theorem addUnit (h : reader.Moved rows moved) (hsame : declaration.Moved rows other)
    (unit : MeasureUnit) :
    (reader.addUnit declaration unit).Moved rows (moved.addUnit other unit) := by
  have hreported : (if (reader.registry.conflicts unit).isEmpty then reader
        else reader.warn declaration.line
          (.namesTaken declaration.name (reader.registry.conflicts unit))).Moved rows
      (if (reader.registry.conflicts unit).isEmpty then moved
        else moved.warn other.line
          (.namesTaken declaration.name (reader.registry.conflicts unit))) := by
    split
    · exact h
    · exact h.warn_same hsame.line _
  unfold Reader.addUnit
  rw [h.registry, hsame.name]
  dsimp only
  rw [hreported.registry]
  split
  · exact ⟨rfl, hreported.warnings, hreported.current⟩
  · exact hreported.warn_same hsame.line _

/-- They declare the same unit. -/
theorem declareUnit (h : reader.Moved rows moved) (hsame : declaration.Moved rows other)
    (quantity : Quantity) (factor : Float) :
    (reader.declareUnit declaration quantity factor).Moved rows
      (moved.declareUnit other quantity factor) := by
  have haliases : other.aliases = declaration.aliases := by
    rw [Declaration.aliases, Declaration.aliases, hsame.settings]
  have hunit : ∀ names, other.unit names quantity factor =
      declaration.unit names quantity factor := by
    intro names
    simp only [Declaration.unit, Declaration.zeroPoint, Declaration.dimensions,
      Declaration.inverse, hsame.settings]
  have hrepeated : ∀ (repeated : List String) (reader moved : Reader),
      reader.Moved rows moved →
        (repeated.foldl (fun reader name =>
            reader.warn declaration.line (.repeatedName declaration.name name)) reader).Moved rows
          (repeated.foldl (fun reader name =>
            reader.warn other.line (.repeatedName declaration.name name)) moved) := by
    intro repeated
    induction repeated with
    | nil => exact fun _ _ h => h
    | cons name repeated ih => exact fun _ _ h => ih _ _ (h.warn_same hsame.line _)
  unfold Reader.declareUnit
  rw [hsame.name, haliases]
  obtain ⟨names, repeated⟩ := Declaration.joinNames [declaration.name] declaration.aliases
  dsimp only
  rw [hunit]
  cases declaration.unit names quantity factor with
  | error defect => exact (hrepeated repeated _ _ h).warn_same hsame.line _
  | ok unit => exact (hrepeated repeated _ _ h).addUnit hsame unit

/-- Nothing is open for both, or the same declaration is. -/
theorem current_cases (h : reader.Moved rows moved) :
    (reader.current = none ∧ moved.current = none) ∨
      ∃ declaration other, reader.current = some declaration ∧ moved.current = some other ∧
        declaration.Moved rows other := by
  have hcurrent := h.current
  generalize reader.current = current at hcurrent ⊢
  generalize moved.current = next at hcurrent ⊢
  cases hcurrent with
  | none => exact .inl ⟨rfl, rfl⟩
  | some hsame => exact .inr ⟨_, _, rfl, rfl, hsame⟩

/-- They close the same declaration. -/
theorem finish (h : reader.Moved rows moved) : reader.finish.Moved rows moved.finish := by
  have hclosed := h.open_same .none
  unfold Reader.finish
  rcases h.current_cases with ⟨hnone, hnext⟩ | ⟨declaration, other, hopen, hnext, hsame⟩
  · rw [hnone, hnext]
    exact h
  · have hquantity : other.quantity? = declaration.quantity? := by
      rw [Declaration.quantity?, Declaration.quantity?, hsame.settings]
    have hfactor : other.factor? = declaration.factor? := by
      rw [Declaration.factor?, Declaration.factor?, hsame.settings]
    have hmissing : other.missing = declaration.missing := by
      simp only [Declaration.missing, Declaration.sets, hsame.settings]
    rw [hopen, hnext]
    dsimp only
    rw [hquantity, hfactor, hmissing, hsame.name]
    split
    · exact hclosed.declareUnit hsame _ _
    · exact hclosed.warn_same hsame.line _

/-- They set the same field, or report the same problem with it. -/
theorem assign (h : reader.Moved rows moved)
    (hline : ∃ old new, Becomes rows line position old new) (limit : DigitLimit) (key : String)
    (values : List String) :
    Together (Reader.Moved rows) (reader.assign limit line key values)
      (moved.assign limit position key values) := by
  unfold Reader.assign
  rcases h.current_cases with ⟨hnone, hnext⟩ | ⟨declaration, other, hopen, hnext, hsame⟩
  · rw [hnone, hnext]
    exact .ok (h.warn_same hline _)
  · have hsets : ∀ field, other.sets field = declaration.sets field := by
      intro field
      rw [Declaration.sets, Declaration.sets, hsame.settings]
    rw [hopen, hnext]
    dsimp only
    rw [hsame.name]
    cases Field.ofKey? key with
    | none => exact .ok (h.warn_same hline _)
    | some field =>
      dsimp only
      rw [hsets]
      split
      · exact .ok (h.warn_same hline _)
      · cases field.read limit key values with
        | accepted setting =>
          exact .ok (h.open_same (.some ⟨rfl, by rw [hsame.settings], hsame.line⟩))
        | refused fault => exact .ok (h.warn_same hline _)
        | overlong failure => exact .error failure

/-- They take in the same entry. -/
theorem take (h : reader.Moved rows moved)
    (hline : ∃ old new, Becomes rows line position old new) (limit : DigitLimit) (entry : Entry) :
    Together (Reader.Moved rows) (reader.take limit line entry)
      (moved.take limit position entry) := by
  cases entry with
  | blank => exact .ok h
  | faulty problem => exact .ok (h.warn_same hline problem)
  | brokenHeader problem => exact .ok (h.finish.warn_same hline problem)
  | header name => exact .ok (h.finish.open_same (.some ⟨rfl, rfl, hline⟩))
  | assignment key values => exact h.assign hline limit key values

/-- They read a line and what has become of it. -/
theorem feed (h : reader.Moved rows moved) (hbecomes : Becomes rows line position old new)
    (relaid : Relation.ReflTransGen Relaid old new) (limit : DigitLimit) :
    Together (Reader.Moved rows) (reader.feed limit line old)
      (moved.feed limit position new) := by
  unfold Reader.feed
  rcases alike_of_relaid relaid with hsame | ⟨shown, echoed, hold, hnew⟩
  · rw [hsame]
    exact h.take ⟨old, new, hbecomes⟩ limit _
  · obtain rfl := eq_of_ofLine_eq_unrecognized hold
    obtain rfl := eq_of_ofLine_eq_unrecognized hnew
    rw [hold, hnew]
    exact .ok (h.warn ⟨_, _, hbecomes, .inr ⟨rfl, rfl⟩⟩)

/-- They read the lines that are left and what has become of these. -/
theorem feedLines (limit : DigitLimit) {done todo : List Row} (hrows : rows = done ++ todo)
    (h : reader.Moved rows moved) :
    Together (Reader.Moved rows)
      (reader.feedLines limit ((oldLines done).length + 1) (oldLines todo))
      (moved.feedLines limit (done.length + 1) (newLines todo)) := by
  induction todo generalizing done reader moved with
  | nil => exact .ok h
  | cons row todo ih =>
    have hlater : rows = (done ++ [row]) ++ todo := by rw [hrows]; simp
    have hposition : (done ++ [row]).length = done.length + 1 := by simp
    cases row with
    | inserted line void =>
      have hold : oldLines (.inserted line void :: todo) = oldLines todo := rfl
      have hnew : newLines (.inserted line void :: todo) = line :: newLines todo := rfl
      have hskipped : oldLines (done ++ [.inserted line void]) = oldLines done := by
        simp [oldLines, Row.old?]
      have hfeed : moved.feed limit (done.length + 1) line = .ok moved := by
        rw [Reader.feed, ofLine_of_isVoid void]
        rfl
      rw [hold, hnew, Reader.feedLines, hfeed]
      have hrest := ih hlater h
      rw [hskipped, hposition] at hrest
      exact hrest
    | kept old new relaid =>
      have hold : oldLines (.kept old new relaid :: todo) = old :: oldLines todo := rfl
      have hnew : newLines (.kept old new relaid :: todo) = new :: newLines todo := rfl
      have hcounted : (oldLines (done ++ [.kept old new relaid])).length =
          (oldLines done).length + 1 := by
        simp [oldLines, Row.old?]
      rw [hold, hnew, Reader.feedLines, Reader.feedLines]
      refine (h.feed ⟨done, relaid, todo, hrows, rfl, rfl⟩ relaid limit).bind ?_
      intro reader moved h
      have hrest := ih hlater h
      rw [hcounted, hposition] at hrest
      exact hrest

end Reader.Moved

/-- Loading two layouts of a file goes together. -/
theorem load_together (limit : DigitLimit) (rows : List Row) :
    Together (fun loaded moved => moved.registry = loaded.registry ∧
        List.Forall₂ (Warning.Moved rows) loaded.warnings moved.warnings)
      (load limit (oldLines rows)) (load limit (newLines rows)) := by
  have hinitial : Reader.initial.Moved rows Reader.initial := ⟨rfl, .nil, .none⟩
  have hread := hinitial.feedLines limit (List.nil_append rows).symm
  unfold load
  rw [show (oldLines ([] : List Row)).length + 1 = 1 from rfl,
    show ([] : List Row).length + 1 = 1 from rfl] at hread
  generalize Reader.initial.feedLines limit 1 (oldLines rows) = first at hread ⊢
  generalize Reader.initial.feedLines limit 1 (newLines rows) = second at hread ⊢
  cases hread with
  | error failure => exact .error failure
  | ok h => exact .ok ⟨h.finish.registry, h.finish.warnings⟩

/-- Inserting lines that hold nothing and changing the layout of lines, in as many steps as one
likes, changes nothing that is loaded but the warnings, and these only in where the lines stand that
they are about and in how a line is shown that is not recognized. -/
theorem layout_insignificant (limit : DigitLimit) (rows : List Row) :
    (∀ failure, load limit (newLines rows) = .error failure ↔
      load limit (oldLines rows) = .error failure) ∧
    ∀ loaded, load limit (oldLines rows) = .ok loaded →
      ∃ moved, load limit (newLines rows) = .ok moved ∧ moved.registry = loaded.registry ∧
        List.Forall₂ (Warning.Moved rows) loaded.warnings moved.warnings := by
  have h := load_together limit rows
  generalize load limit (oldLines rows) = first at h ⊢
  generalize load limit (newLines rows) = second at h ⊢
  cases h with
  | error failure => exact ⟨fun _ => Iff.rfl, fun loaded h => by cases h⟩
  | ok h =>
    refine ⟨fun failure => by simp, fun loaded hloaded => ?_⟩
    cases hloaded
    exact ⟨_, rfl, h⟩

end UnitConversion.UnitsFile

import UnitConversion.Proofs.Outcomes
import UnitConversion.Yaml.Document

/-!
# The leaves of a document

A value without parts is never a mapping. Shapes are only kept of scalars, whose values have no
parts, and of collections, so a document does not hide a mapping behind the shape of a leaf.
-/

namespace UnitConversion.Yaml

/-- The value is no mapping. -/
def IsLeaf (datum : Datum) : Prop := ∀ entries, datum ≠ .mapping entries

/-- A timestamp is no mapping. -/
theorem isLeaf_of_timestamp {timestamp : Timestamp} {datum : Datum}
    (h : timestamp.datum = .ok datum) : IsLeaf datum := by
  rintro entries rfl
  unfold Timestamp.datum at h
  dsimp only at h
  split at h
  · obtain ⟨_, -, hpure⟩ := Outcome.bind_eq_ok.mp h
    have hdate := Outcome.pure_eq_ok.mp hpure
    contradiction
  · obtain ⟨_, -, hdate⟩ := Outcome.bind_eq_ok.mp h
    obtain ⟨_, -, htime⟩ := Outcome.bind_eq_ok.mp hdate
    obtain ⟨_, -, hpure⟩ := Outcome.bind_eq_ok.mp htime
    have hmoment := Outcome.pure_eq_ok.mp hpure
    contradiction

/-- What a step comes to is not changed by another failure. -/
theorem eq_ok_of_mapError {ε ε' α : Type} {step : Except ε α} {change : ε → ε'} {value : α}
    (h : step.mapError change = .ok value) : step = .ok value := by
  cases step with
  | error failure => contradiction
  | ok found =>
    cases h
    rfl

/-- A scalar is no mapping. -/
theorem isLeaf_of_scalarDatum {tag : Tag} {id : NodeId} {text : String} {datum : Datum}
    (h : scalarDatum tag id text = .ok datum) : IsLeaf datum := by
  unfold scalarDatum at h
  split at h
  · cases h
    simp [IsLeaf]
  · obtain ⟨value, -, rfl⟩ := Outcome.map_eq_ok.mp (eq_ok_of_mapError h)
    simp [IsLeaf]
  · obtain ⟨value, -, rfl⟩ := Outcome.map_eq_ok.mp (eq_ok_of_mapError h)
    simp [IsLeaf]
  · obtain ⟨value, -, hpure⟩ := Outcome.bind_eq_ok.mp (eq_ok_of_mapError h)
    rw [← Outcome.pure_eq_ok.mp hpure]
    split <;> simp [IsLeaf]
  · have htime := eq_ok_of_mapError h
    unfold readTimestamp at htime
    split at htime
    · exact isLeaf_of_timestamp (eq_ok_of_mapError htime)
    · contradiction
  · cases h
    simp [IsLeaf]
  · unfold readBinary at h
    split at h
    · split at h
      · cases h
        simp [IsLeaf]
      · contradiction
    · contradiction
  · contradiction

/-- The value of a node that stands for a text is no mapping. -/
theorem Graph.isLeaf_of_leafDatum {graph : Graph} {id : NodeId} {tag : Tag} {datum : Datum}
    (h : graph.leafDatum id tag = .ok datum) : IsLeaf datum := by
  unfold leafDatum at h
  split at h
  · contradiction
  · split at h
    · contradiction
    · exact isLeaf_of_scalarDatum h

/-- The shape is that of a leaf only if the value is one. -/
def Shape.Honest : Shape → Prop
  | leaf datum => IsLeaf datum
  | _ => True

/-- All shapes that are kept are honest. -/
def HonestShapes (shapes : Array (Option Shape)) : Prop :=
  ∀ (id : NodeId) (shape : Shape), shapes[id]? = some (some shape) → shape.Honest

namespace FindShapes

variable {α β : Type}

/-- A step that succeeds keeps the shapes honest. -/
def Keeps (step : FindShapes α) : Prop :=
  ∀ before value after, HonestShapes before.shapes → step.run before = .ok (value, after) →
    HonestShapes after.shapes

/-- A step that changes nothing keeps them. -/
theorem keeps_pure (value : α) : Keeps (pure value) := by
  intro before other after honest hrun
  cases hrun
  exact honest

/-- So does one that fails. -/
theorem keeps_refuse : Keeps (refuse : FindShapes α) := by
  intro before value after honest hrun
  contradiction

/-- A sequence of two steps keeps them when both steps do. The second one may look at what it is
given, and at the shapes. -/
theorem Keeps.bind {first : FindShapes α} {next : α → FindShapes β} (hfirst : Keeps first)
    (hnext : ∀ value, Keeps (next value)) : Keeps (first >>= next) := by
  intro before result after honest hrun
  obtain ⟨⟨value, between⟩, hvalue, hlater⟩ := Outcome.bind_eq_ok.mp hrun
  exact hnext value between result after (hfirst before value between honest hvalue) hlater

/-- Looking at what is known changes nothing, and the shapes that are seen are honest. -/
theorem keeps_get_bind {next : Shaping → FindShapes β}
    (h : ∀ shaping, HonestShapes shaping.shapes → Keeps (next shaping)) :
    Keeps ((get : FindShapes Shaping) >>= next) := by
  intro before value after honest hrun
  exact h before honest before value after honest hrun

/-- Honest shapes may be put in place of what is known. -/
theorem keeps_set {shaping : Shaping} (h : HonestShapes shaping.shapes) :
    Keeps (set shaping : FindShapes PUnit) := by
  intro before value after honest hrun
  cases hrun
  exact h

/-- The shapes stay when something else is changed. -/
theorem keeps_modify {change : Shaping → Shaping}
    (h : ∀ shaping, (change shaping).shapes = shaping.shapes) :
    Keeps (modify change : FindShapes PUnit) := by
  intro before value after honest hrun
  cases hrun
  rw [h]
  exact honest

/-- The value of a step without shapes may be used. -/
theorem keeps_lift {outcome : Except Fault α} {next : α → FindShapes β}
    (h : ∀ value, outcome = .ok value → Keeps (next value)) :
    Keeps ((liftM outcome : FindShapes α) >>= next) := by
  intro before result after honest hrun
  cases houtcome : outcome with
  | error fault =>
    rw [houtcome] at hrun
    contradiction
  | ok value =>
    rw [houtcome] at hrun
    exact h value houtcome before result after honest hrun

/-- An honest shape may be kept. -/
theorem keeps_keep {id : NodeId} {shape : Shape} (h : shape.Honest) : Keeps (keep id shape) := by
  intro before value after honest hrun
  cases hrun
  intro other kept hkept
  rw [Array.getElem?_setIfInBounds] at hkept
  by_cases hsame : id = other
  · rw [if_pos hsame] at hkept
    split at hkept
    · cases hkept
      exact h
    · contradiction
  · rw [if_neg hsame] at hkept
    exact honest other kept hkept

/-- Steps for the items of a list keep the shapes honest when each does. -/
theorem Keeps.forM {step : α → FindShapes PUnit} (hstep : ∀ item, Keeps (step item))
    (items : List α) : Keeps (items.forM step) := by
  induction items with
  | nil => exact keeps_pure _
  | cons item rest ih => exact (hstep item).bind fun _ => ih

/-- So do steps with a result for each item. -/
theorem Keeps.mapM {step : α → FindShapes β} (hstep : ∀ item, Keeps (step item))
    (items : List α) : Keeps (items.mapM step) := by
  induction items with
  | nil => exact keeps_pure _
  | cons item rest ih =>
    rw [List.mapM_cons]
    exact (hstep item).bind fun _ => ih.bind fun _ => keeps_pure _

/-- So do steps that are each given the result of the one before. -/
theorem Keeps.foldlM {step : β → α → FindShapes β} (hstep : ∀ result item, Keeps (step result item))
    (start : β) (items : List α) : Keeps (items.foldlM step start) := by
  induction items generalizing start with
  | nil => exact keeps_pure _
  | cons item rest ih =>
    rw [List.foldlM_cons]
    exact (hstep start item).bind fun result => ih result

/-- A collection has no shape of a leaf. -/
theorem honest_ofTag? {tag : Tag} {shape : Shape} (h : Shape.ofTag? tag = some shape) :
    shape.Honest := by
  unfold Shape.ofTag? at h
  split at h <;> cases h <;> trivial

/-- Visiting a node keeps the shapes honest. -/
theorem keeps_visit (id : NodeId) : Keeps (visit id) := by
  unfold visit
  refine keeps_get_bind fun shaping _ => ?_
  split
  · exact keeps_pure _
  · split
    · rename_i node hnode
      split
      · rename_i shape hshape
        exact (keeps_keep (honest_ofTag? hshape)).bind fun _ => keeps_modify fun _ => rfl
      · exact keeps_lift fun datum hdatum => keeps_keep (Graph.isLeaf_of_leafDatum hdatum)
    · exact keeps_refuse

/-- So does visiting a key. -/
theorem keeps_visitKey (id : NodeId) : Keeps (visitKey id) := by
  unfold visitKey
  refine (keeps_visit id).bind fun _ => keeps_get_bind fun shaping _ => ?_
  split
  · exact keeps_pure _
  · exact keeps_refuse

/-- So does visiting the entries of a mapping. -/
theorem keeps_visitEntries (id : NodeId) : Keeps (visitEntries id) := by
  have hentries : ∀ graph : Graph, Keeps (((graph.entries? id).getD []).foldlM
      (fun entries entry => do
        let datum ← visitKey entry.1
        visit entry.2
        return Datum.putEntry entries datum entry.2) []) := by
    intro graph
    refine Keeps.foldlM (fun entries entry => ?_) _ _
    exact (keeps_visitKey _).bind fun _ => (keeps_visit _).bind fun _ => keeps_pure _
  have hset : ∀ (shaping : Shaping) (graph : Graph), HonestShapes shaping.shapes →
      Keeps (set { shaping with graph } : FindShapes PUnit) := fun _ _ honest => keeps_set honest
  unfold visitEntries
  refine keeps_get_bind fun shaping honest => ?_
  split
  · refine keeps_refuse.bind fun _ => keeps_lift fun graph _ => ?_
    exact (hset shaping graph honest).bind fun _ => hentries graph
  · refine keeps_lift fun graph _ => ?_
    exact (hset shaping graph honest).bind fun _ => hentries graph

/-- So does looking at the parts of a collection. -/
theorem keeps_visitParts (id : NodeId) : Keeps (visitParts id) := by
  have hitems : Keeps (items id) := by
    unfold items
    refine keeps_get_bind fun shaping _ => ?_
    split
    · exact keeps_pure _
    · exact keeps_refuse
  have hpair : ∀ item : NodeId, Keeps (do
      let entry ← onlyEntry item
      visit entry.1
      visit entry.2
      return (entry.1, entry.2)) := by
    intro item
    have hentry : Keeps (onlyEntry item) := by
      unfold onlyEntry
      refine keeps_get_bind fun shaping _ => ?_
      split
      · exact keeps_pure _
      · exact keeps_refuse
    exact hentry.bind fun entry =>
      (keeps_visit _).bind fun _ => (keeps_visit _).bind fun _ => keeps_pure _
  unfold visitParts
  refine keeps_get_bind fun shaping _ => ?_
  split
  · exact hitems.bind fun found => (Keeps.forM keeps_visit found).bind fun _ => keeps_keep trivial
  · exact hitems.bind fun found => (Keeps.mapM hpair found).bind fun _ => keeps_keep trivial
  · exact (keeps_visitEntries id).bind fun entries => keeps_keep trivial
  · exact (keeps_visitEntries id).bind fun entries => keeps_keep trivial
  · exact keeps_pure _

/-- So does looking at one wave after another. -/
theorem keeps_waves (fuel : Nat) : Keeps (waves fuel) := by
  induction fuel with
  | zero => exact keeps_pure _
  | succ fuel ih =>
    unfold waves
    refine keeps_get_bind fun shaping _ => ?_
    dsimp only
    split
    · exact keeps_pure _
    · have hclear : Keeps (modify ({ · with found := [] }) : FindShapes PUnit) :=
        keeps_modify fun _ => rfl
      exact hclear.bind fun _ => (Keeps.forM keeps_visitParts _).bind fun _ => ih

end FindShapes

/-- The shapes in a document of a text are honest. -/
theorem honestShapes_of_ofText {text : String} {document : Document}
    (h : Document.ofText text = .ok (some document)) : HonestShapes document.shapes := by
  unfold Document.ofText at h
  obtain ⟨parsed, -, hshapes⟩ := Outcome.bind_eq_ok.mp h
  cases parsed with
  | none =>
    have hnone := Outcome.pure_eq_ok.mp hshapes
    contradiction
  | some root =>
    obtain ⟨graph, root⟩ := root
    obtain ⟨shapes, hfound, hpure⟩ := Outcome.bind_eq_ok.mp hshapes
    cases Outcome.pure_eq_ok.mp hpure
    unfold Graph.shapes at hfound
    obtain ⟨⟨done, after⟩, hrun, hlast⟩ := Outcome.bind_eq_ok.mp hfound
    cases Outcome.pure_eq_ok.mp hlast
    have hfind := (FindShapes.keeps_visit root).bind fun _ => FindShapes.keeps_waves (graph.size + 1)
    refine hfind _ _ _ ?_ hrun
    intro id shape hshape
    have hnone := Array.mem_of_getElem? hshape
    rw [Array.mem_replicate] at hnone
    exact absurd hnone.2 (by simp)

/-- A mapping is never the shape of a leaf. -/
theorem shape_ne_leaf_mapping {text : String} {document : Document}
    (h : Document.ofText text = .ok (some document)) (id : NodeId)
    (entries : List (Datum × Datum)) : document.shape id ≠ .leaf (.mapping entries) := by
  intro hshape
  unfold Document.shape at hshape
  cases hkept : document.shapes[id]? with
  | none =>
    rw [hkept] at hshape
    cases hshape
  | some kept =>
    rw [hkept] at hshape
    cases kept with
    | none => cases hshape
    | some shape =>
      have hsame : shape = .leaf (.mapping entries) := hshape
      rw [hsame] at hkept
      exact honestShapes_of_ofText h id _ hkept entries rfl

end UnitConversion.Yaml

import UnitConversion.Settings.SetOrder
import UnitConversion.Yaml.Merge
import UnitConversion.Yaml.Scalar

/-!
# The shapes of values

The shape of a value is the value with its parts left as numbers of nodes. Shapes are found in
waves: the parts of all collections of one wave are looked at before the parts of those that were
found among them. The first node without a value ends the search.
-/

namespace UnitConversion.Yaml

/-- The shape of a value. -/
inductive Shape
  /-- A value without parts. -/
  | leaf (datum : Datum)
  | list (items : List NodeId)
  /-- A list of pairs. -/
  | pairs (items : List NodePair)
  | mapping (entries : List (Datum × NodeId))
  | set (items : List Datum)

/-- The value is a list. -/
def Shape.isList : Shape → Bool
  | list _ => true
  | pairs _ => true
  | _ => false

/-- The value, with the values of its parts put in. -/
def Shape.datum (part : NodeId → Datum) : Shape → Datum
  | leaf datum => datum
  | list items => .list (items.map part)
  | pairs items => .list (items.map fun (first, second) => .pair (part first) (part second))
  | mapping entries => .mapping (entries.map fun (key, value) => (key, part value))
  | set items => .set items

/-- The shape of a collection before its parts are looked at; nothing for other kinds. -/
def Shape.ofTag? : Tag → Option Shape
  | .list => some (.list [])
  | .pairs => some (.pairs [])
  | .mapping => some (.mapping [])
  | .set => some (.set [])
  | _ => none

/-- What is known while shapes are being found. -/
structure Shaping where
  /-- The nodes. -/
  graph : Graph
  /-- The shapes so far, by the numbers of the nodes. -/
  shapes : Array (Option Shape)
  /-- The collections found in this wave, the last one first. -/
  found : List NodeId

/-- A step of finding shapes. -/
abbrev FindShapes := StateT Shaping (Except Fault)

namespace FindShapes

/-- Fail: the nodes stand for nothing. -/
def refuse {α : Type} : FindShapes α := throw .malformed

/-- Keep the shape of a node. -/
def keep (id : NodeId) (shape : Shape) : FindShapes Unit :=
  modify fun shaping => { shaping with shapes := shaping.shapes.setIfInBounds id (some shape) }

/-- Find the shape of a node, unless it is known. A collection is left for the next wave. -/
def visit (id : NodeId) : FindShapes Unit := do
  let shaping ← get
  if (shaping.shapes[id]?.join).isSome then return
  let some node := shaping.graph.node? id | refuse
  match Shape.ofTag? node.tag with
  | some shape =>
    keep id shape
    modify fun shaping => { shaping with found := id :: shaping.found }
  | none => keep id (.leaf (← shaping.graph.leafDatum id node.tag))

/-- Visit a node that is a key. Only values without parts can be keys. -/
def visitKey (id : NodeId) : FindShapes Datum := do
  visit id
  match (← get).shapes[id]?.join with
  | some (.leaf datum) => return datum
  | _ => refuse

/-- The items of a sequence. -/
def items (id : NodeId) : FindShapes (List NodeId) := do
  match (← get).graph.items? id with
  | some items => return items
  | none => refuse

/-- The entry of a mapping that has just one. -/
def onlyEntry (id : NodeId) : FindShapes NodePair := do
  match (← get).graph.entries? id with
  | some [entry] => return entry
  | _ => refuse

/-- Visit the entries of a mapping, after those that it takes over. A key that comes again has its
last value. -/
def visitEntries (id : NodeId) : FindShapes (List (Datum × NodeId)) := do
  let shaping ← get
  if (shaping.graph.entries? id).isNone then refuse
  let graph ← shaping.graph.merge id
  set { shaping with graph }
  ((graph.entries? id).getD []).foldlM (fun entries (key, value) => do
    let datum ← visitKey key
    visit value
    return Datum.putEntry entries datum value) []

/-- Look at the parts of a collection. -/
def visitParts (id : NodeId) : FindShapes Unit := do
  match (← get).shapes[id]?.join with
  | some (.list _) =>
    let items ← items id
    items.forM visit
    keep id (.list items)
  | some (.pairs _) =>
    let pairs ← (← items id).mapM fun item => do
      let (key, value) ← onlyEntry item
      visit key
      visit value
      return (key, value)
    keep id (.pairs pairs)
  | some (.mapping _) => keep id (.mapping (← visitEntries id))
  | some (.set _) => keep id (.set (Datum.setOrder ((← visitEntries id).map (·.1))))
  | _ => return

/-- Look at the parts of the collections of one wave after another. A collection is in one wave
only, so there are no more waves than nodes. -/
def waves : Nat → FindShapes Unit
  | 0 => return
  | fuel + 1 => do
    let wave := (← get).found.reverse
    if wave.isEmpty then return
    modify ({ · with found := [] })
    wave.forM visitParts
    waves fuel

end FindShapes

/-- The shapes of all values that the value of a node is made of, by the numbers of their nodes. -/
def Graph.shapes (graph : Graph) (root : NodeId) : Except Fault (Array (Option Shape)) := do
  let start : Shaping := ⟨graph, Array.replicate graph.size none, []⟩
  let find : FindShapes Unit := do
    FindShapes.visit root
    FindShapes.waves (graph.size + 1)
  return (← find.run start).2.shapes

end UnitConversion.Yaml

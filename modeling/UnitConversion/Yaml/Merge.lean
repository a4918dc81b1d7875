import UnitConversion.Yaml.Fault
import UnitConversion.Yaml.Node

/-!
# Taking over entries

A merge key of a mapping names other mappings, whose entries come in front of the mapping's own.
They take over entries themselves before that. All of this changes the nodes, so that it shows
wherever a mapping is used.
-/

namespace UnitConversion.Yaml.Graph

/-- The mappings that the value of a merge key names: the value itself, or its items. -/
def mergeSources (graph : Graph) (value : NodeId) : Except Fault (List NodeId) :=
  match graph.entries? value, graph.items? value with
  | some _, _ => .ok [value]
  | none, some items =>
    if items.all fun item => (graph.entries? item).isSome then .ok items else .error .malformed
  | none, none => .error .malformed

/-- Take the first merge key out of a mapping. Gives its value. -/
def takeMerge? (graph : Graph) (id : NodeId) : Option (NodeId × Graph) :=
  let isOwn (entry : NodePair) : Bool := !graph.hasTag .merge entry.1
  let entries := (graph.entries? id).getD []
  match entries.dropWhile isOwn with
  | [] => none
  | (_, value) :: after =>
    some (value, graph.setContent id (.mapping (entries.takeWhile isOwn ++ after)))

/-- The key that stands for its mapping is a text like any other. -/
def asText (node : Node) : Node :=
  if node.tag = .defaultValue then { node with tag := .text } else node

/-- Put entries in front of those of a mapping. No key stands for the mapping from then on. -/
def absorb (graph : Graph) (id : NodeId) (taken : List NodePair) : Graph :=
  let entries := taken ++ (graph.entries? id).getD []
  entries.foldl (fun graph entry => graph.modify entry.1 asText)
    (graph.setContent id (.mapping entries))

/-- Take all merge keys out of a mapping. Gives the entries that they stand for: the mapping that is
named last comes first, and the mappings of a later key come after those of an earlier one. -/
def takeMerges : Nat → NodeId → StateT Graph (Except Fault) (List NodePair)
  | 0, _ => return []
  | fuel + 1, id => do
    match (← get).takeMerge? id with
    | none => return []
    | some (value, graph) =>
      set graph
      let parts ← (← graph.mergeSources value).mapM fun source => do
        let taken ← takeMerges fuel source
        let merged := (← get).absorb source taken
        set merged
        return (merged.entries? source).getD []
      return parts.reverse.flatten ++ (← takeMerges fuel id)

/-- Let a mapping take over the entries that its merge keys name. -/
def merge (graph : Graph) (id : NodeId) : Except Fault Graph := do
  let (taken, graph) ← (takeMerges (graph.entryCount + 1) id).run graph
  return graph.absorb id taken

end UnitConversion.Yaml.Graph

import UnitConversion.Yaml.Graph
import UnitConversion.Yaml.Shape

/-!
# The data of a YAML text

A document keeps the shapes of its values; a value is put together when it is asked for. That way a
value that is part of many others takes no room for each of them.
-/

namespace UnitConversion.Yaml

/-- The values of a YAML text. -/
structure Document where
  /-- The shapes of the values, by the numbers of their nodes. -/
  shapes : Array (Option Shape)
  /-- The node of the whole. -/
  root : NodeId

namespace Document

/-- The shape of the value of a node. -/
def shape (document : Document) (id : NodeId) : Shape :=
  (document.shapes[id]?.join).getD (.leaf .null)

/-- The value of a node inside other collections. A collection that is one of them is only hinted at,
so no value goes deeper than there are nodes. -/
def datumInside (document : Document) : Nat → List NodeId → NodeId → Datum
  | 0, _, _ => .null
  | fuel + 1, around, id =>
    if around.contains id then .enclosing (document.shape id).isList
    else (document.shape id).datum (document.datumInside fuel (id :: around))

/-- The value of a node. -/
def datum (document : Document) (id : NodeId) : Datum :=
  document.datumInside (document.shapes.size + 1) [] id

/-- The data of a YAML text; nothing when the text is empty. -/
def ofText (text : String) : Except Fault (Option Document) := do
  match ← Graph.ofText text with
  | some (graph, root) => return some ⟨← graph.shapes root, root⟩
  | none => return none

end Document

end UnitConversion.Yaml

import UnitConversion.Yaml.Tag

/-!
# Nodes

The nodes of a YAML text are numbered. A collection names its parts by their numbers, so that a node
can be part of several others, and even of itself.
-/

namespace UnitConversion.Yaml

/-- The number of a node. -/
abbrev NodeId := Nat

/-- An entry of a mapping: a key and a value. -/
abbrev NodePair := NodeId × NodeId

/-- What a node consists of. -/
inductive Content
  | scalar (text : String)
  | sequence (items : List NodeId)
  | mapping (entries : List NodePair)
deriving DecidableEq, Repr

namespace Content

/-- The items of a sequence. -/
def items? : Content → Option (List NodeId)
  | sequence items => some items
  | _ => none

/-- The entries of a mapping. -/
def entries? : Content → Option (List NodePair)
  | mapping entries => some entries
  | _ => none

end Content

/-- A node. -/
structure Node where
  /-- The tag, which says what kind of value the node stands for. -/
  tag : Tag
  /-- What the node consists of. -/
  content : Content
deriving DecidableEq, Repr

/-- Nodes by their numbers, which count from zero. -/
structure Graph where
  /-- The nodes, in the order of their numbers. -/
  nodes : Array Node

namespace Graph

/-- No nodes. -/
def empty : Graph := ⟨#[]⟩

/-- How many nodes there are. It is the number of the node that is added next. -/
def size (graph : Graph) : Nat := graph.nodes.size

/-- The node with a number. -/
def node? (graph : Graph) (id : NodeId) : Option Node := graph.nodes[id]?

/-- Add a node. -/
def add (graph : Graph) (node : Node) : Graph := ⟨graph.nodes.push node⟩

/-- Change the node with a number. -/
def modify (graph : Graph) (id : NodeId) (change : Node → Node) : Graph :=
  ⟨graph.nodes.modify id change⟩

/-- Let the node with a number consist of something else. -/
def setContent (graph : Graph) (id : NodeId) (content : Content) : Graph :=
  graph.modify id ({ · with content })

/-- The node with a number has a tag. -/
def hasTag (graph : Graph) (tag : Tag) (id : NodeId) : Bool :=
  (graph.node? id).any (·.tag = tag)

/-- The items of a node, if it is a sequence. -/
def items? (graph : Graph) (id : NodeId) : Option (List NodeId) :=
  (graph.node? id).bind (·.content.items?)

/-- The entries of a node, if it is a mapping. -/
def entries? (graph : Graph) (id : NodeId) : Option (List NodePair) :=
  (graph.node? id).bind (·.content.entries?)

/-- How many entries all mappings have together. -/
def entryCount (graph : Graph) : Nat :=
  (graph.nodes.toList.flatMap fun node => node.content.entries?.getD []).length

end Graph

end UnitConversion.Yaml

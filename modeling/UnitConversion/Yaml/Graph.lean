import UnitConversion.Yaml.Node
import UnitConversion.Yaml.TokenStream

/-!
# The nodes of a YAML text

Reading the tokens of a text numbers its nodes: handles of tags are replaced by what they stand for,
and aliases by the numbers of the nodes that they name. A collection has its number before its parts
are read, so that an alias inside can name it.
-/

namespace UnitConversion.Yaml

/-- What is known between two nodes. -/
structure NodeReader where
  /-- The tokens that follow. -/
  tokens : List Token
  /-- The nodes that the anchors name. -/
  anchors : List (String × NodeId)
  /-- What the handles of tags stand for. -/
  handles : List (String × String)
  /-- The nodes so far. -/
  graph : Graph

/-- A step of reading nodes. -/
abbrev ReadNode := StateT NodeReader (Except Fault)

/-- Where a node stands. -/
inductive Position
  /-- Inside brackets. -/
  | flow
  /-- In a document or a block sequence. -/
  | block
  /-- In a block mapping, where the entries of a sequence need no further indentation. -/
  | mappingPart
deriving DecidableEq, Repr

/-- The marks in front of a node. -/
structure Properties where
  /-- The anchor. -/
  anchor : Option String
  /-- The tag in full. The mark of a tag without a name is a tag of its own. -/
  tag : Option String

/-- No marks. -/
def Properties.unmarked : Properties := ⟨none, none⟩

/-- The tag that leaves the kind of a node to its looks. -/
def openTag : String := "!"

/-- The tag of a sequence or a mapping. -/
def Properties.collectionTag (properties : Properties) (standard : Tag) : Tag :=
  match properties.tag with
  | none => standard
  | some name => if name = openTag then standard else .ofFullName name

/-- The tag of a scalar. Without a mark, only a plain scalar is taken for what it looks like. -/
def Properties.scalarTag (properties : Properties) (text : String) (plain : Bool) : Tag :=
  match properties.tag with
  | none => if plain then .ofPlain text else .text
  | some name => if name = openTag then .ofPlain text else .ofFullName name

/-- The handles that every document has. -/
def standardHandles : List (String × String) := [("!", "!"), ("!!", Tag.standardStart)]

namespace ReadNode

/-- The next token. Where the text could not be cut any further, looking at it fails. -/
def peek : ReadNode (Option Token) := do
  match (← get).tokens.head? with
  | some (.broken fault) => throw fault
  | token => return token

/-- Pass over a token. -/
def skip : ReadNode Unit := modify fun reader => { reader with tokens := reader.tokens.tail }

/-- Fail: the tokens do not fit together. -/
def refuse {α : Type} : ReadNode α := throw .malformed

/-- Pass over a token if it is the next one. -/
def accept (token : Token) : ReadNode Bool := do
  if (← peek) = some token then
    skip
    return true
  return false

/-- Pass over a token that has to follow. -/
def expect (token : Token) : ReadNode Unit := do
  if !(← accept token) then refuse

/-- The full name of a written tag. -/
def fullName (tag : WrittenTag) : ReadNode String := do
  match tag.handle with
  | none => return tag.ending
  | some handle =>
    match (← get).handles.lookup handle with
    | some start => return start ++ tag.ending
    | none => refuse

/-- The anchor, if one follows. -/
def anchor? : ReadNode (Option String) := do
  match ← peek with
  | some (.anchor name) =>
    skip
    return some name
  | _ => return none

/-- The tag as it is written, if one follows. -/
def tag? : ReadNode (Option WrittenTag) := do
  match ← peek with
  | some (.tag tag) =>
    skip
    return some tag
  | _ => return none

/-- The marks in front of a node, in either order. -/
def properties : ReadNode Properties := do
  match ← anchor? with
  | some name =>
    let tag ← tag?
    return ⟨some name, ← tag.mapM fullName⟩
  | none =>
    let tag ← tag?
    let name ← anchor?
    return ⟨name, ← tag.mapM fullName⟩

/-- Number a node under its anchor. No two nodes of a document have the same anchor. -/
def add (properties : Properties) (node : Node) : ReadNode NodeId := do
  let reader ← get
  let id := reader.graph.size
  let graph := reader.graph.add node
  match properties.anchor with
  | none => set { reader with graph }
  | some name =>
    if (reader.anchors.lookup name).isSome then refuse
    set { reader with graph, anchors := (name, id) :: reader.anchors }
  return id

/-- Number a sequence and read its items. -/
def sequence (properties : Properties) (read : ReadNode (List NodeId)) : ReadNode NodeId := do
  let id ← add properties ⟨properties.collectionTag .list, .sequence []⟩
  let items ← read
  modify fun reader => { reader with graph := reader.graph.setContent id (.sequence items) }
  return id

/-- Number a mapping and read its entries. -/
def mapping (properties : Properties) (read : ReadNode (List NodePair)) : ReadNode NodeId := do
  let id ← add properties ⟨properties.collectionTag .mapping, .mapping []⟩
  let entries ← read
  modify fun reader => { reader with graph := reader.graph.setContent id (.mapping entries) }
  return id

/-- Number a scalar. -/
def scalar (properties : Properties) (text : String) (plain : Bool) : ReadNode NodeId :=
  add properties ⟨properties.scalarTag text plain, .scalar text⟩

/-- The node that an alias names. -/
def aliased (name : String) : ReadNode NodeId := do
  match (← get).anchors.lookup name with
  | some id => return id
  | none => refuse

/-- A node where nothing is written. -/
def absent : ReadNode NodeId := scalar .unmarked "" true

/-- A node without content, which needs at least one mark. -/
def markedAbsent (properties : Properties) : ReadNode NodeId := do
  if properties.anchor.isNone && properties.tag.isNone then refuse
  scalar properties "" true

mutual

/-- A node. -/
def node (position : Position) : Nat → ReadNode NodeId
  | 0 => refuse
  | fuel + 1 => do
    match ← peek with
    | some (.aliasMark name) =>
      skip
      aliased name
    | _ =>
      let properties ← properties
      match ← peek with
      | some (.scalar text plain) =>
        skip
        scalar properties text plain
      | some .flowSequenceStart =>
        skip
        sequence properties (flowItems true fuel)
      | some .flowMappingStart =>
        skip
        mapping properties (flowEntries true fuel)
      | some .blockEntry =>
        if position = .mappingPart then sequence properties (looseItems fuel)
        else markedAbsent properties
      | some .blockSequenceStart =>
        if position = .flow then markedAbsent properties
        else
          skip
          sequence properties (blockItems fuel)
      | some .blockMappingStart =>
        if position = .flow then markedAbsent properties
        else
          skip
          mapping properties (blockEntries fuel)
      | _ => markedAbsent properties

/-- A node, or nothing when one of the given tokens follows. -/
def nodeUnless (position : Position) (ends : List Token) : Nat → ReadNode NodeId
  | 0 => refuse
  | fuel + 1 => do
    if (← peek).any ends.contains then return ← absent
    node position fuel

/-- A value after its mark, or nothing when the mark is missing. -/
def valuePart (position : Position) (ends : List Token) : Nat → ReadNode NodeId
  | 0 => refuse
  | fuel + 1 => do
    if ← accept .value then nodeUnless position ends fuel else absent

/-- The items of a block sequence, to its end. -/
def blockItems : Nat → ReadNode (List NodeId)
  | 0 => refuse
  | fuel + 1 => do
    if ← accept .blockEntry then
      let item ← nodeUnless .block [.blockEntry, .blockEnd] fuel
      return item :: (← blockItems fuel)
    expect .blockEnd
    return []

/-- The items of a block sequence that has no block of its own. -/
def looseItems : Nat → ReadNode (List NodeId)
  | 0 => refuse
  | fuel + 1 => do
    if ← accept .blockEntry then
      let item ← nodeUnless .block [.blockEntry, .key, .value, .blockEnd] fuel
      return item :: (← looseItems fuel)
    return []

/-- The entries of a block mapping, to its end. -/
def blockEntries : Nat → ReadNode (List NodePair)
  | 0 => refuse
  | fuel + 1 => do
    let ends := [Token.key, .value, .blockEnd]
    if ← accept .key then
      let key ← nodeUnless .mappingPart ends fuel
      let value ← valuePart .mappingPart ends fuel
      return (key, value) :: (← blockEntries fuel)
    expect .blockEnd
    return []

/-- The items of a sequence between brackets, to its end. A key makes a mapping with one entry. -/
def flowItems (isFirst : Bool) : Nat → ReadNode (List NodeId)
  | 0 => refuse
  | fuel + 1 => do
    if ← accept .flowSequenceEnd then return []
    if !isFirst then expect .flowEntry
    if ← accept .flowSequenceEnd then return []
    if ← accept .key then
      let item ← mapping .unmarked do
        let key ← nodeUnless .flow [.value, .flowEntry, .flowSequenceEnd] fuel
        return [(key, ← valuePart .flow [.flowEntry, .flowSequenceEnd] fuel)]
      return item :: (← flowItems false fuel)
    let item ← node .flow fuel
    return item :: (← flowItems false fuel)

/-- The entries of a mapping between brackets, to its end. -/
def flowEntries (isFirst : Bool) : Nat → ReadNode (List NodePair)
  | 0 => refuse
  | fuel + 1 => do
    if ← accept .flowMappingEnd then return []
    if !isFirst then expect .flowEntry
    if ← accept .flowMappingEnd then return []
    if ← accept .key then
      let key ← nodeUnless .flow [.value, .flowEntry, .flowMappingEnd] fuel
      let value ← valuePart .flow [.flowEntry, .flowMappingEnd] fuel
      return (key, value) :: (← flowEntries false fuel)
    let key ← node .flow fuel
    return (key, ← absent) :: (← flowEntries false fuel)

end

/-- The directives of a document. Each handle is set once, and the version is the first one. -/
def directives (version : Option Nat) (handles : List (String × String)) :
    Nat → ReadNode (List (String × String))
  | 0 => return handles
  | fuel + 1 => do
    match ← peek with
    | some (.directive (.version major)) =>
      if version.isSome ∨ major ≠ 1 then refuse
      skip
      directives (some major) handles fuel
    | some (.directive (.tagHandle handle start)) =>
      if (handles.lookup handle).isSome then refuse
      skip
      directives version ((handle, start) :: handles) fuel
    | some (.directive .unknown) =>
      skip
      directives version handles fuel
    | _ => return handles

/-- Pass over marks for the end of a document. -/
def documentEnds : Nat → ReadNode Unit
  | 0 => return
  | fuel + 1 => do
    if ← accept .documentEnd then documentEnds fuel

/-- The next token says that a document starts with its marks. -/
def atMarkedDocument : ReadNode Bool := do
  match ← peek with
  | some (.directive _) => return true
  | some .documentStart => return true
  | _ => return false

/-- The next token cannot start the content of a document. -/
def atDocumentBound : ReadNode Bool := do
  match ← peek with
  | none => return true
  | some .documentEnd => return true
  | _ => atMarkedDocument

/-- The content of a document with its marks. -/
def markedDocument (fuel : Nat) : ReadNode NodeId := do
  let handles ← directives none [] fuel
  modify fun reader => { reader with handles := handles ++ standardHandles }
  expect .documentStart
  if ← atDocumentBound then return ← absent
  node .block fuel

/-- The only document of a text, if there is one. -/
def document (fuel : Nat) : ReadNode (Option NodeId) := do
  if (← peek).isNone then return none
  let root ← if ← atMarkedDocument then markedDocument fuel else node .block fuel
  documentEnds fuel
  if (← peek).isSome then
    let _ ← directives none [] fuel
    refuse
  return some root

end ReadNode

/-- The nodes of a text and the number of their root; nothing when the text is empty. -/
def Graph.ofText (text : String) : Except Fault (Option (Graph × NodeId)) := do
  let tokens := Token.ofText text
  let reader : NodeReader := ⟨tokens, [], standardHandles, .empty⟩
  let (root, reader) ← (ReadNode.document (4 * tokens.length + 4)).run reader
  return root.map fun id => (reader.graph, id)

end UnitConversion.Yaml

import UnitConversion.Yaml.Base64
import UnitConversion.Yaml.Fault
import UnitConversion.Yaml.Node

/-!
# The values of scalars

What a text stands for depends on the tag of its node. A mapping can stand for a text too, the one
that its default key has for a value.
-/

namespace UnitConversion.Yaml

/-- The truth value that a text marked as one stands for. -/
def readTruth (text : String) : Except ValueFault Bool :=
  let word := Text.lower text
  match Tag.truthWords.lookup word with
  | some value => .ok value
  | none => .error (.notTruth word)

/-- The date or time that a text marked as a timestamp stands for. -/
def readTimestamp (text : String) : Except ValueFault Datum :=
  match Timestamp.ofChars? (Tag.dropFinalFeed text.toList) with
  | some timestamp => timestamp.datum.mapError ValueFault.calendar
  | none => .error .notTimestamp

/-- The floating-point number that a text marked as one stands for, in a node with a number. Only the
word for no number is the same wherever it is written. -/
def readFloatAt (id : NodeId) (text : String) : Except ValueFault Datum := do
  let value ← readFloat text
  return if value.isNaN && !isUndefinedWord text then .undefined id else .float value

/-- The bytes that a text in base sixty-four stands for. -/
def readBinary (text : String) : Except Fault Datum :=
  match bytesOfBase64 text with
  | some bytes => if text.toList.all (·.toNat < 128) then .ok (.bytes bytes) else .error .malformed
  | none => .error .malformed

/-- The value of a text in a node with a number. -/
def scalarDatum (tag : Tag) (id : NodeId) (text : String) : Except Fault Datum :=
  match tag with
  | .null => .ok .null
  | .bool => ((readTruth text).map Datum.bool).mapError Fault.value
  | .int => ((readInteger text).map Datum.int).mapError Fault.value
  | .float => (readFloatAt id text).mapError Fault.value
  | .timestamp => (readTimestamp text).mapError Fault.value
  | .text => .ok (.text text)
  | .binary => readBinary text
  | _ => .error .malformed

namespace Graph

/-- The text that a node stands for: its own, or that of the value of its first default key. -/
def text? (graph : Graph) : Nat → NodeId → Option String
  | 0, _ => none
  | fuel + 1, id =>
    (graph.node? id).bind fun node =>
      match node.content with
      | .scalar text => some text
      | .sequence _ => none
      | .mapping entries =>
        (entries.find? fun entry => graph.hasTag .defaultValue entry.1).bind fun entry =>
          graph.text? fuel entry.2

/-- The value of a node that stands for a text. A timestamp has to be written as one. -/
def leafDatum (graph : Graph) (id : NodeId) (tag : Tag) : Except Fault Datum :=
  match graph.text? (graph.size + 1) id with
  | none => .error .malformed
  | some text =>
    if tag = .timestamp ∧ (graph.entries? id).isSome then .error (.value .timestampNotText)
    else scalarDatum tag id text

end Graph

end UnitConversion.Yaml

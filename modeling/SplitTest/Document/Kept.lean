import SplitTest.Document.Decoder
import SplitTest.Document.Format
import SplitTest.Json.Range

/-!
# Fields kept for a part

A record may hold a part of its own whose fields stand among its own fields.  Which
of them are the part's is only known at the end, so all fields but the record's own
are kept as nodes.  A kept node is read without knowing what it is to mean: a plain
scalar is what it is written like, every text has to be one, every number has to be in
range, and lists and mappings nest only so deep.
-/

namespace SplitTest.Document

namespace Node

mutual

/-- Whether a node can be kept: its texts are texts and its numbers are in range. -/
def isKeepable : Node → Bool
  | unpaired => false
  | number written => Json.isInRange written.toList
  | plain s => Yaml.meaning s.toList != .oversized
  | list items => areKeepable items
  | sequence items => areKeepable items
  | fields pairs => arePairsKeepable pairs
  | _ => true

/-- `isKeepable` of every node. -/
def areKeepable : List Node → Bool
  | [] => true
  | n :: ns => n.isKeepable && areKeepable ns

/-- `isKeepable` of every key and value. -/
def arePairsKeepable : List (Node × Node) → Bool
  | [] => true
  | (k, n) :: ps => k.isKeepable && n.isKeepable && arePairsKeepable ps

end

end Node

/-- A field of a mapping in which all fields but `own` are kept. -/
def keptField (f : Format) (own : List String) (field : Node × Node) : Option (Node × Node) := do
  let name ← Decoder.text field.1
  if own.contains name then
    return (.text name, field.2)
  else if field.2.isKeepable && field.2.depth + 1 ≤ f.nestingLimit then
    return (.text name, Yaml.resolve field.2)
  else
    none

/-- A mapping in which all fields but `own` are kept. -/
def keeping (f : Format) (own : List String) : Node → Option Node
  | .fields ps => (ps.mapM (keptField f own)).map .fields
  | n => some n

end SplitTest.Document

import SplitTest.Document.Node
import SplitTest.Yaml.Token

/-!
# YAML documents

A text holds one document at most, and that document is one node: a scalar, a block
collection, or a flow collection, in which there is no block collection.  A key or a
value that is missing is an empty scalar, and so is an item of a block sequence.

The readers give a node and the tokens behind it.
-/

namespace SplitTest.Yaml

open SplitTest.Document

/-- An empty scalar. -/
def emptyNode : Node := .plain ""

/-- A node and the tokens behind it. -/
abbrev NodeReading := Option (Node × List Token)

/-! ## Where a node is missing -/

/-- Whether the item of a block sequence is missing before these tokens. -/
def lacksItem : List Token → Bool
  | .item :: _ => true
  | .blockEnd :: _ => true
  | _ => false

/-- Whether the key or value of a block mapping is missing before these tokens. -/
def lacksMember : List Token → Bool
  | .key :: _ => true
  | .value :: _ => true
  | .blockEnd :: _ => true
  | _ => false

/-- Whether the item of a sequence that stands at the column of its key is missing
before these tokens. -/
def lacksFlushItem (ts : List Token) : Bool := ts.head? == some .item || lacksMember ts

/-- Whether the value in a flow collection with a closing token is missing before
these tokens. -/
def lacksFlowValue (close : Token) : List Token → Bool
  | t :: _ => t == .comma || t == close
  | [] => false

/-- Whether the key in a flow collection with a closing token is missing before these
tokens. -/
def lacksFlowKey (close : Token) (ts : List Token) : Bool :=
  ts.head? == some .value || lacksFlowValue close ts

/-- The scalar at the head of tokens. -/
def readScalar : List Token → NodeReading
  | .plain s :: ts => some (.plain s, ts)
  | .quoted s :: ts => some (.text s, ts)
  | _ => none

/-! ## Flow collections -/

mutual

/-- A node in a flow collection; `fuel` bounds the number of nodes within it. -/
def readFlow : Nat → List Token → NodeReading
  | 0, _ => none
  | fuel + 1, .openBracket :: ts => readFlowSequence fuel ts
  | fuel + 1, .openBrace :: ts => readFlowMapping fuel ts
  | _ + 1, ts => readScalar ts

/-- The value of a pair in a flow collection, behind its colon if it has one. -/
def readFlowValue (close : Token) : Nat → List Token → NodeReading
  | 0, _ => none
  | fuel + 1, .value :: ts =>
    if lacksFlowValue close ts then some (emptyNode, ts) else readFlow fuel ts
  | _ + 1, ts => some (emptyNode, ts)

/-- A flow sequence behind its bracket. -/
def readFlowSequence : Nat → List Token → NodeReading
  | 0, _ => none
  | _ + 1, .closeBracket :: ts => some (.sequence [], ts)
  | fuel + 1, ts => (readFlowItems fuel ts).map fun (ns, rest) => (.sequence ns, rest)

/-- The items of a flow sequence, at least one, up to its closing bracket. -/
def readFlowItems : Nat → List Token → Option (List Node × List Token)
  | 0, _ => none
  | fuel + 1, ts => do
    let (n, ts) ← readFlowItem fuel ts
    match ts with
    | .closeBracket :: ts => return ([n], ts)
    | .comma :: .closeBracket :: ts => return ([n], ts)
    | .comma :: ts =>
      let (ns, ts) ← readFlowItems fuel ts
      return (n :: ns, ts)
    | _ => none

/-- An item of a flow sequence: a node, or a pair, which is a mapping of its own.  The
token before which the key of a pair is missing is passed over. -/
def readFlowItem : Nat → List Token → NodeReading
  | 0, _ => none
  | fuel + 1, .key :: ts => do
    let (k, ts) ←
      if lacksFlowKey .closeBracket ts then some (emptyNode, ts.drop 1) else readFlow fuel ts
    let (v, ts) ← readFlowValue .closeBracket fuel ts
    return (.fields [(k, v)], ts)
  | fuel + 1, ts => readFlow fuel ts

/-- A flow mapping behind its brace. -/
def readFlowMapping : Nat → List Token → NodeReading
  | 0, _ => none
  | _ + 1, .closeBrace :: ts => some (.fields [], ts)
  | fuel + 1, ts => (readFlowPairs fuel ts).map fun (ps, rest) => (.fields ps, rest)

/-- The pairs of a flow mapping, at least one, up to its closing brace. -/
def readFlowPairs : Nat → List Token → Option (List (Node × Node) × List Token)
  | 0, _ => none
  | fuel + 1, ts => do
    let (p, ts) ← readFlowPair fuel ts
    match ts with
    | .closeBrace :: ts => return ([p], ts)
    | .comma :: .closeBrace :: ts => return ([p], ts)
    | .comma :: ts =>
      let (ps, ts) ← readFlowPairs fuel ts
      return (p :: ps, ts)
    | _ => none

/-- A pair of a flow mapping; a node that is no key has an empty value. -/
def readFlowPair : Nat → List Token → Option ((Node × Node) × List Token)
  | 0, _ => none
  | fuel + 1, .key :: ts => do
    let (k, ts) ← if lacksFlowKey .closeBrace ts then some (emptyNode, ts) else readFlow fuel ts
    let (v, ts) ← readFlowValue .closeBrace fuel ts
    return ((k, v), ts)
  | fuel + 1, ts => (readFlow fuel ts).map fun (n, rest) => ((n, emptyNode), rest)

end

/-! ## Block collections -/

mutual

/-- A node outside of flow collections; `fuel` bounds the number of nodes within it. -/
def readBlock : Nat → List Token → NodeReading
  | 0, _ => none
  | fuel + 1, .sequenceStart :: ts =>
    (readItems fuel ts).map fun (ns, rest) => (.sequence ns, rest)
  | fuel + 1, .mappingStart :: ts =>
    (readPairs fuel ts).map fun (ps, rest) => (.fields ps, rest)
  | fuel + 1, ts => readFlow fuel ts

/-- The items of a block sequence up to its end. -/
def readItems : Nat → List Token → Option (List Node × List Token)
  | 0, _ => none
  | _ + 1, .blockEnd :: ts => some ([], ts)
  | fuel + 1, .item :: ts => do
    let (n, ts) ← if lacksItem ts then some (emptyNode, ts) else readBlock fuel ts
    let (ns, ts) ← readItems fuel ts
    return (n :: ns, ts)
  | _ + 1, _ => none

/-- The items of a sequence that stands at the column of its key. -/
def readFlushItems : Nat → List Token → Option (List Node × List Token)
  | 0, _ => none
  | fuel + 1, .item :: ts => do
    let (n, ts) ← if lacksFlushItem ts then some (emptyNode, ts) else readBlock fuel ts
    let (ns, ts) ← readFlushItems fuel ts
    return (n :: ns, ts)
  | _ + 1, ts => some ([], ts)

/-- A key or value of a block mapping, which may be a sequence at the column of the
key. -/
def readMember : Nat → List Token → NodeReading
  | 0, _ => none
  | fuel + 1, ts =>
    if lacksMember ts then some (emptyNode, ts)
    else if ts.head? == some .item then
      (readFlushItems fuel ts).map fun (ns, rest) => (.sequence ns, rest)
    else
      readBlock fuel ts

/-- The value of a block mapping, behind its colon if it has one. -/
def readValue : Nat → List Token → NodeReading
  | 0, _ => none
  | fuel + 1, .value :: ts => readMember fuel ts
  | _ + 1, ts => some (emptyNode, ts)

/-- The pairs of a block mapping up to its end. -/
def readPairs : Nat → List Token → Option (List (Node × Node) × List Token)
  | 0, _ => none
  | _ + 1, .blockEnd :: ts => some ([], ts)
  | fuel + 1, .key :: ts => do
    let (k, ts) ← readMember fuel ts
    let (v, ts) ← readValue fuel ts
    let (ps, ts) ← readPairs fuel ts
    return ((k, v) :: ps, ts)
  | _ + 1, _ => none

end

/-! ## The document -/

/-- Whether tokens behind a node are the ends of its document. -/
def areEnds (ts : List Token) : Bool := ts.all (· == .documentEnd)

/-- The node of a document that begins with three dashes, behind them. -/
def readMarked (fuel : Nat) (ts : List Token) : NodeReading :=
  match ts with
  | [] => some (emptyNode, [])
  | .documentStart :: _ => some (emptyNode, ts)
  | .documentEnd :: _ => some (emptyNode, ts)
  | _ => readBlock fuel ts

/-- The node that a whole text stands for. -/
def readDocument? (s : String) : Option Node := do
  let ts ← tokens? s.toList
  let fuel := 4 * ts.length + 4
  match ts with
  | [] => return .void
  | t :: rest =>
    let (n, rest) ← if t == .documentStart then readMarked fuel rest else readBlock fuel ts
    if areEnds rest then return n else none

end SplitTest.Yaml

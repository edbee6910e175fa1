import SplitTest.Json.Literal

/-!
# Document nodes

What a JSON or YAML document is made of, before it is known what it is to mean.  A
scalar that YAML writes without quotes is kept as it stands, since `5` is a number
where a number is wanted and a text where a text is wanted.  Lists of JSON may stand
for records and sequences of YAML may not, so they are told apart.

`Node.compact` writes a node as one line of JSON without spaces.
-/

namespace SplitTest.Document

/-- A node of a document. -/
inductive Node where
  /-- What a text without a document stands for. -/
  | void
  /-- Nothing. -/
  | null
  /-- A truth value. -/
  | bool (b : Bool)
  /-- A number as it is written. -/
  | number (written : String)
  /-- A text between quotes. -/
  | text (s : String)
  /-- A text between quotes that holds half of a surrogate pair. -/
  | unpaired
  /-- A scalar without quotes. -/
  | plain (s : String)
  /-- A list, which may stand for a record. -/
  | list (items : List Node)
  /-- A sequence, which is never a record. -/
  | sequence (items : List Node)
  /-- A mapping, with its keys in order and possibly repeated. -/
  | fields (pairs : List (Node × Node))

namespace Node

mutual

/-- How deep lists and mappings nest in a node. -/
def depth : Node → Nat
  | list items => depthOfItems items + 1
  | sequence items => depthOfItems items + 1
  | fields pairs => depthOfPairs pairs + 1
  | _ => 0

/-- The greatest depth among nodes. -/
def depthOfItems : List Node → Nat
  | [] => 0
  | n :: ns => max n.depth (depthOfItems ns)

/-- The greatest depth among keys and values. -/
def depthOfPairs : List (Node × Node) → Nat
  | [] => 0
  | (k, n) :: ps => max (max k.depth n.depth) (depthOfPairs ps)

end

mutual

/-- A node as one line of JSON without spaces. -/
def compact : Node → List Char
  | void => "null".toList
  | null => "null".toList
  | bool b => (if b then "true" else "false").toList
  | number written => written.toList
  | text s => Json.encode s.toList
  | unpaired => Json.encode []
  | plain s => Json.encode s.toList
  | list items => '[' :: compactItems items ++ [']']
  | sequence items => '[' :: compactItems items ++ [']']
  | fields pairs => '{' :: compactPairs pairs ++ ['}']

/-- Nodes joined by commas. -/
def compactItems : List Node → List Char
  | [] => []
  | [n] => n.compact
  | n :: m :: ns => n.compact ++ ',' :: compactItems (m :: ns)

/-- Pairs joined by commas. -/
def compactPairs : List (Node × Node) → List Char
  | [] => []
  | [(k, n)] => k.compact ++ ':' :: n.compact
  | (k, n) :: p :: ps => k.compact ++ ':' :: n.compact ++ ',' :: compactPairs (p :: ps)

end

/-- A node as one line of JSON without spaces. -/
def json (n : Node) : String := .ofList n.compact

/-- A whole number. -/
def ofInt (n : Int) : Node := number (Text.ofInt n)

/-- A natural number. -/
def ofNat (n : Nat) : Node := number (Text.ofNat n)

/-- A mapping with named values. -/
def record (pairs : List (String × Node)) : Node := fields (pairs.map fun p => (text p.1, p.2))

end Node

end SplitTest.Document

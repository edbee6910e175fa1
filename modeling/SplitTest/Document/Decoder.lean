import SplitTest.Document.Node
import SplitTest.Keyed
import SplitTest.Yaml.Plain

/-!
# Decoding nodes

A decoder gives the value a node stands for where a value of its type is wanted,
or nothing.  A record is a mapping with named fields, in any order and with others
beside them, but none of them twice; or the list of its fields in order, of which
only the last ones may be missing.
-/

namespace SplitTest.Document

open SplitTest.Text

/-- What a node stands for where an `α` is wanted. -/
abbrev Decoder (α : Type) := Node → Option α

namespace Decoder
variable {α : Type}

/-- A text. -/
def text : Decoder String
  | .text s => some s
  | .plain s => some s
  | _ => none

/-- A truth value. -/
def truth : Decoder Bool
  | .bool b => some b
  | .plain s => Yaml.truth? s.toList
  | _ => none

/-- The whole number that a JSON number is: without point and exponent, and not a
negative zero. -/
def wholeNumber? : List Char → Option Int
  | '-' :: ds => ((natural? 10 ds).filter (· != 0)).map fun n => -(n : Int)
  | ds => (natural? 10 ds).map Int.ofNat

/-- A whole number between two bounds, both included. -/
def whole (least greatest : Int) : Decoder Int := fun n =>
  let value := match n with
    | .number w => wholeNumber? w.toList
    | .plain s => Yaml.integer? s.toList
    | _ => none
  value.filter fun v => least ≤ v && v ≤ greatest

/-- A whole number that fits 64 bits with a sign. -/
def int64 : Decoder Int := whole (-9223372036854775808) 9223372036854775807

/-- A natural number that is at most `greatest`; a plain scalar must have no minus sign. -/
def upTo (greatest : Nat) : Decoder Nat
  | .plain s => (Yaml.natural? s.toList).filter (· ≤ greatest)
  | n => (whole 0 greatest n).map Int.toNat

/-- A value or nothing. -/
def optional (d : Decoder α) : Decoder (Option α)
  | .null => some none
  | .void => some none
  | .plain s => if Yaml.isNull s.toList then some none else (d (.plain s)).map some
  | n => (d n).map some

/-- A list. -/
def listOf (d : Decoder α) : Decoder (List α)
  | .list ns => ns.mapM d
  | .sequence ns => ns.mapM d
  | .plain "" => some []
  | .void => some []
  | _ => none

/-- A mapping of names, a repeated one of which has its last value. -/
def dictionary (d : Decoder α) : Decoder (Dictionary α)
  | .fields ps => do
    let pairs ← ps.mapM fun p => do return (← text p.1, ← d p.2)
    return .ofList pairs
  | .plain "" => some .empty
  | .void => some .empty
  | _ => none

/-! ## Records -/

/-- The value of the field `name` among pairs; refused if there are several. -/
def fieldAmong (pairs : List (String × Node)) (name : String) : Option (Option Node) :=
  match pairs.filter fun p => p.1 == name with
  | [] => some none
  | [p] => some (some p.2)
  | _ => none

/-- The values of the fields `names` in a mapping. -/
def mappedFields (names : List String) : Decoder (List (Option Node))
  | .fields ps => do
    let pairs ← ps.mapM fun p => (text p.1).map fun k => (k, p.2)
    names.mapM (fieldAmong pairs)
  | .plain "" => some (names.map fun _ => none)
  | .void => some (names.map fun _ => none)
  | _ => none

/-- The values of the fields `names` in a mapping, or in a list that has them in
order. -/
def recordFields (names : List String) : Decoder (List (Option Node))
  | .list ns =>
    if ns.length ≤ names.length then
      some (ns.map some ++ List.replicate (names.length - ns.length) none)
    else
      none
  | n => mappedFields names n

/-- A field that must be there. -/
def required (d : Decoder α) (n : Option Node) : Option α := n.bind d

/-- A field that has a value when it is missing. -/
def defaulted (d : Decoder α) (value : α) : Option Node → Option α
  | none => some value
  | some n => d n

end Decoder

end SplitTest.Document

import SplitTest.Document.Node
import SplitTest.Json.Literal
import SplitTest.Json.Number

/-!
# Reading JSON

The strict grammar: no comments, no comma before a closing bracket, no control
characters in literals, no text after the document.  A literal with half of a
surrogate pair is read as `Node.unpaired`, so that it only matters where its text
is wanted.
-/

namespace SplitTest.Json

open SplitTest.Document SplitTest.Text

/-- A node and the text behind it. -/
abbrev Reading := Option (Node × List Char)

/-- A number as it is written. -/
def readNumber (s : List Char) : Reading :=
  match s with
  | '-' :: s => (magnitude s).toOption.map fun (m, rest) => (.number (.ofList ('-' :: m)), rest)
  | s => (magnitude s).toOption.map fun (m, rest) => (.number (.ofList m), rest)

/-- A string literal, from behind its opening quote. -/
def readText (s : List Char) : Reading :=
  match readBody s with
  | .ok (t, rest) => some (.text (.ofList t), rest)
  | .error _ => (skipBody s).map fun rest => (.unpaired, rest)

mutual

/-- A value; `fuel` bounds the number of values within it. -/
def readValue : Nat → List Char → Reading
  | 0, _ => none
  | fuel + 1, s =>
    match skipSpace s with
    | '"' :: s => readText s
    | '[' :: s =>
      match skipSpace s with
      | ']' :: s => some (.list [], s)
      | s => (readElements fuel s).map fun (ns, rest) => (.list ns, rest)
    | '{' :: s =>
      match skipSpace s with
      | '}' :: s => some (.fields [], s)
      | s => (readMembers fuel s).map fun (ps, rest) => (.fields ps, rest)
    | 'n' :: 'u' :: 'l' :: 'l' :: s => some (.null, s)
    | 't' :: 'r' :: 'u' :: 'e' :: s => some (.bool true, s)
    | 'f' :: 'a' :: 'l' :: 's' :: 'e' :: s => some (.bool false, s)
    | s => readNumber s

/-- The values of an array, at least one, up to its closing bracket. -/
def readElements : Nat → List Char → Option (List Node × List Char)
  | 0, _ => none
  | fuel + 1, s =>
    match readValue fuel s with
    | none => none
    | some (n, s) =>
      match skipSpace s with
      | ']' :: s => some ([n], s)
      | ',' :: s => (readElements fuel s).map fun (ns, rest) => (n :: ns, rest)
      | _ => none

/-- The members of an object, at least one, up to its closing bracket. -/
def readMembers : Nat → List Char → Option (List (Node × Node) × List Char)
  | 0, _ => none
  | fuel + 1, s =>
    match skipSpace s with
    | '"' :: s =>
      match readText s with
      | none => none
      | some (k, s) =>
        match skipSpace s with
        | ':' :: s =>
          match readValue fuel s with
          | none => none
          | some (n, s) =>
            match skipSpace s with
            | '}' :: s => some ([(k, n)], s)
            | ',' :: s => (readMembers fuel s).map fun (ps, rest) => ((k, n) :: ps, rest)
            | _ => none
        | _ => none
    | _ => none

end

/-- The node that a whole document stands for. -/
def readDocument? (s : String) : Option Node :=
  match readValue (2 * s.length + 2) s.toList with
  | some (n, rest) => if (skipSpace rest).isEmpty then some n else none
  | none => none

end SplitTest.Json

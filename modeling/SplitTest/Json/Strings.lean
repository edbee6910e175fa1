import SplitTest.Json.Literal
import SplitTest.Json.Number

/-!
# Arrays of strings

The stored form of a list of lines: a compact array of string literals.  The
reader also takes space between the tokens, and `null` for the empty array.  It stops
at the first fault; a value of another type is read as far as its type is seen, and
the fault is behind it.
-/

namespace SplitTest.Json

open SplitTest.Text

/-- The literals of `ss`, joined by commas. -/
def encodeItems : List (List Char) → List Char
  | [] => []
  | [s] => encode s
  | s :: t :: ss => encode s ++ ',' :: encodeItems (t :: ss)

/-- The compact array of the literals of `ss`. -/
def encodeStrings (ss : List (List Char)) : List Char := '[' :: encodeItems ss ++ [']']

/-- What follows a word, of which `letters` are still to come. -/
def readWord : List Char → List Char → Except Stop (List Char)
  | [], s => .ok s
  | _ :: _, [] => .error (.atEnd .value)
  | l :: letters, c :: s =>
    if c = l then readWord letters s else .error (.behind .word 1 (c :: s))

/-- A value that stands where one of another type is wanted.  Of an array and of an
object nothing is read. -/
def readMisfit : List Char → Front Misfit
  | [] => .error (.atEnd .value)
  | 'n' :: s => (readWord ['u', 'l', 'l'] s).map fun rest => (.null, rest)
  | 't' :: s => (readWord ['r', 'u', 'e'] s).map fun rest => (.truth true, rest)
  | 'f' :: s => (readWord ['a', 'l', 's', 'e'] s).map fun rest => (.truth false, rest)
  | '"' :: s => (readBody s).map fun (t, rest) => (.text (.ofList t), rest)
  | '[' :: s => .ok (.array, '[' :: s)
  | '{' :: s => .ok (.object, '{' :: s)
  | '-' :: s => readMisfitNumber true s
  | c :: s =>
    if isDigit c then readMisfitNumber false (c :: s) else .error (.behind .noValue 1 (c :: s))

/-- Where a text is left that does not begin with a value of the wanted type. -/
def unwanted (wanted : Wanted) (s : List Char) : Stop :=
  match readMisfit s with
  | .ok (found, rest) => .before (.misfit found wanted) rest
  | .error stop => stop

/-- The literals up to the closing bracket and what follows it; at least one
literal comes first.  At most `fuel` literals are read. -/
def readItems : Nat → List Char → Front (List (List Char))
  | 0, _ => .error (.atEnd .list)
  | fuel + 1, '"' :: body =>
    match readBody body with
    | .error stop => .error stop
    | .ok (t, rest) =>
      match skipSpace rest with
      | [] => .error (.atEnd .list)
      | ']' :: rest => .ok ([t], rest)
      | ',' :: rest =>
        match skipSpace rest with
        | [] => .error (.atEnd .value)
        | ']' :: rest => .error (.behind .trailingComma 1 (']' :: rest))
        | s => (readItems fuel s).map fun (ts, rest) => (t :: ts, rest)
      | s => .error (.behind .noSeparator 1 s)
  | _ + 1, s => .error (unwanted .string s)

/-- An array of string literals and what follows it. -/
def readStrings (s : List Char) : Front (List (List Char)) :=
  match skipSpace s with
  | '[' :: rest =>
    match skipSpace rest with
    | [] => .error (.atEnd .list)
    | ']' :: rest => .ok ([], rest)
    | s => readItems s.length s
  | 'n' :: rest => (readWord ['u', 'l', 'l'] rest).map fun rest => ([], rest)
  | s => .error (unwanted .array s)

/-- The texts of a whole document that is an array of string literals or `null`, or
where it is left. -/
def readWhole (s : List Char) : Except Stop (List (List Char)) :=
  match readStrings s with
  | .error stop => .error stop
  | .ok (ts, rest) =>
    match skipSpace rest with
    | [] => .ok ts
    | s => .error (.behind .trailingText 1 s)

/-- The texts of a whole document that is an array of string literals or `null`, or its
first fault. -/
def decodeStrings (s : List Char) : Except Fault (List (List Char)) :=
  (readWhole s).mapError (·.within s)

end SplitTest.Json

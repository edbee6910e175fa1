import SplitTest.Command
import SplitTest.Json.Strings
import SplitTest.Text.Lines

/-!
# Command lists

A condition carries command lines in order.  Operators write them as text, one to
a line, and the store keeps them as an array of strings.
-/

namespace SplitTest

open SplitTest.Text

/-- Command lines in order. -/
structure CommandList where
  /-- The lines as written, readable or not. -/
  lines : List String
deriving DecidableEq, Repr, Inhabited

namespace CommandList

/-- The non-blank lines of an operator's text, trimmed. -/
def ofAuthoringText (text : String) : CommandList :=
  ⟨(nonblank (Text.lines text.toList)).map String.ofList⟩

/-- The stored form. -/
def stored (l : CommandList) : String :=
  .ofList (Json.encodeStrings (l.lines.map String.toList))

/-- Read a stored form; blank text and `null` are the empty list.  The place of a fault
is counted in the trimmed text. -/
def ofStored (text : String) : Except Json.Fault CommandList :=
  let s := trim text.toList
  if s.isEmpty then .ok ⟨[]⟩
  else (Json.decodeStrings s).map fun ls => ⟨ls.map String.ofList⟩

/-- The lines, each with what it reads as. -/
def parsed (l : CommandList) : List (String × Except MalformedCommand Command) :=
  l.lines.map fun line => (line, Command.parse line)

/-- Number of lines. -/
def size (l : CommandList) : Nat := l.lines.length

/-- Whether there is no line. -/
def isEmpty (l : CommandList) : Bool := l.lines.isEmpty

end CommandList

end SplitTest

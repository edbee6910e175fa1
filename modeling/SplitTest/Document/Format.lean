import SplitTest.Text.Pieces

/-!
# Formats

The format of a file is told by the extension of its name: `json`, or `yaml` and
`yml`, in lower case.
-/

namespace SplitTest.Document

/-- The formats of documents. -/
inductive Format where
  | json
  | yaml
deriving DecidableEq, Repr

/-- How deep lists and mappings may nest where a document is read without knowing what
it is to mean, its root included. -/
def Format.nestingLimit : Format → Nat
  | .json => 127
  | .yaml => 128

/-- The last part of a path. -/
def fileName (path : String) : List Char :=
  ((Text.pieces '/' path.toList).getLast?).getD []

/-- What follows the last dot of a file name, unless the name begins with it. -/
def extension? (path : String) : Option (List Char) :=
  let name := fileName path
  let ps := Text.pieces '.' name
  if name = ['.', '.'] || ps.length < 2 || (ps.length = 2 && ps.head? = some []) then none
  else ps.getLast?

/-- The format that the extension of a path tells. -/
def format? (path : String) : Option Format :=
  match extension? path with
  | none => none
  | some e =>
    if e = "json".toList then some .json
    else if e = "yaml".toList ∨ e = "yml".toList then some .yaml
    else none

end SplitTest.Document

import SplitTest.Text.Pieces
import SplitTest.Text.Blank

/-!
# Lines

A line ends at a line feed, and a carriage return right before that line feed
belongs to the line's end.  Nothing else ends a line, and a final line feed is
not followed by an empty line.
-/

namespace SplitTest.Text

/-- The text without one carriage return at its end. -/
def dropReturn (s : List Char) : List Char :=
  if s.getLast? = some '\r' then s.dropLast else s

/-- The lines among the pieces between line feeds: all but the last piece were
ended by a line feed, and the last one is a line only if it is not empty. -/
def linesOfPieces : List (List Char) → List (List Char)
  | [] => []
  | [last] => if last.isEmpty then [] else [last]
  | p :: q :: rest => dropReturn p :: linesOfPieces (q :: rest)

/-- The lines of a text. -/
def lines (s : List Char) : List (List Char) := linesOfPieces (pieces '\n' s)

/-- The pieces that are left when each is trimmed and the empty ones are dropped. -/
def nonblank (ps : List (List Char)) : List (List Char) :=
  (ps.map trim).filter fun p => !p.isEmpty

end SplitTest.Text

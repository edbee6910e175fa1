/-!
# Places in a YAML text

A cursor is a place in a text: what is left of it, and how far it has come in lines,
in characters of the line, and in bytes of the line.  Indentation is told by the
characters and the length of a key by the bytes, so nothing of the text before a cursor
is kept.

Line ends are read in one form: `unifyBreaks` writes carriage returns and next-line
characters as line feeds.  The line and paragraph separators are line ends that stand
for themselves.
-/

namespace SplitTest.Yaml

/-- Whether `c` is a space or a tab. -/
def isSpace (c : Char) : Bool := c == ' ' || c == '\t'

/-- Whether `c` ends a line. -/
def isBreak (c : Char) : Bool := c == '\n' || c == '\u2028' || c == '\u2029'

/-- Whether a word ends before a text: at space, at a line end or at its end. -/
def endsWord : List Char → Bool
  | [] => true
  | c :: _ => isSpace c || isBreak c

/-- Whether `c` may stand in a text: it is printable, a tab or a line end. -/
def isAdmitted (c : Char) : Bool :=
  let n := c.toNat
  n == 0x9 || n == 0xA || n == 0xD || (0x20 ≤ n && n ≤ 0x7E) || n == 0x85
    || (0xA0 ≤ n && n != 0xFFFE && n != 0xFFFF)

/-- The text with a line feed for each carriage return, for each of these before a
line feed, and for each next-line character. -/
def unifyBreaks : List Char → List Char
  | [] => []
  | '\r' :: '\n' :: s => '\n' :: unifyBreaks s
  | c :: s => (if c == '\r' || c == '\u0085' then '\n' else c) :: unifyBreaks s

/-- A place in a text. -/
structure Cursor where
  /-- What is left of the text. -/
  rest : List Char
  /-- Number of lines before this one. -/
  line : Nat
  /-- Number of characters before it on its line. -/
  column : Nat
  /-- Number of bytes before it on its line. -/
  offset : Nat
deriving DecidableEq, Repr

namespace Cursor

/-- The beginning of a text. -/
def ofText (s : List Char) : Cursor := ⟨s, 0, 0, 0⟩

/-- The place behind `c`, where `s` is left. -/
def past (p : Cursor) (c : Char) (s : List Char) : Cursor :=
  if isBreak c then ⟨s, p.line + 1, 0, 0⟩ else ⟨s, p.line, p.column + 1, p.offset + c.utf8Size⟩

/-- The place behind the next `n` characters. -/
def skip : Nat → Cursor → Cursor
  | 0, p => p
  | n + 1, p =>
    match p.rest with
    | [] => p
    | c :: s => skip n (p.past c s)

/-- Whether a line of three dashes or three dots begins here. -/
def atMark (p : Cursor) : Bool :=
  let head := p.rest.take 3
  p.column == 0 && (head == ['-', '-', '-'] || head == ['.', '.', '.'])
    && endsWord (p.rest.drop 3)

end Cursor

/-! ## Gaps -/

/-- The white space between two words of a scalar. -/
structure Gap where
  /-- The spaces and tabs before the first line end. -/
  spaces : List Char
  /-- The line ends. -/
  breaks : List Char
  /-- The columns of the tabs behind a line end. -/
  tabs : List Nat
deriving DecidableEq, Repr

namespace Gap

/-- No white space. -/
def empty : Gap := ⟨[], [], []⟩

/-- What a gap stands for.  On one line it is itself.  Over several lines its first
line feed is a space if it is the only line end, and nothing otherwise; the separators
are never lost. -/
def folded (g : Gap) : List Char :=
  match g.breaks with
  | [] => g.spaces
  | ['\n'] => [' ']
  | '\n' :: more => more
  | breaks => breaks

/-- The gap with a character behind it that stands at `column`. -/
def push (g : Gap) (c : Char) (column : Nat) : Gap :=
  if isBreak c then { g with breaks := g.breaks ++ [c] }
  else if g.breaks.isEmpty then { g with spaces := g.spaces ++ [c] }
  else if c == '\t' then { g with tabs := g.tabs ++ [column] }
  else g

/-- The gap at the head of a text, behind `g`, and the place behind it; `p` is the place
of the text. -/
def readFrom (g : Gap) (p : Cursor) : List Char → Gap × Cursor
  | [] => (g, p)
  | c :: s =>
    if isSpace c || isBreak c then readFrom (g.push c p.column) (p.past c s) s else (g, p)

end Gap

namespace Cursor

/-- The gap here, and the place behind it. -/
def gap (p : Cursor) : Gap × Cursor := Gap.empty.readFrom p p.rest

end Cursor

end SplitTest.Yaml

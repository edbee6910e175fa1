import SplitTest.Text.Numeral
import SplitTest.Yaml.Cursor

/-!
# YAML scalars

A scalar stands between single quotes, in which a quote is written twice; between
double quotes, in which a backslash escapes; or without quotes.  It may go on over
several lines, whose gaps are folded.

A plain scalar ends at a colon before white space and at a number sign behind it, and
in a flow collection also at a comma or a bracket.  Outside of one it ends at a line
that is indented no deeper than the collection around it.
-/

namespace SplitTest.Yaml

open SplitTest.Text

/-- A scalar that was read, and the place behind it. -/
abbrev ScalarReading := Option (List Char × Cursor)

/-- A scalar with a text before it. -/
def prepend (t : List Char) (r : ScalarReading) : ScalarReading :=
  r.map fun (u, p) => (t ++ u, p)

/-! ## Quoted scalars -/

/-- A text between single quotes, from behind the opening one; `fuel` bounds its
length. -/
def readSingle : Nat → Cursor → ScalarReading
  | 0, _ => none
  | fuel + 1, p =>
    match p.rest with
    | [] => none
    | '\'' :: '\'' :: _ => prepend ['\''] (readSingle fuel (p.skip 2))
    | '\'' :: _ => some ([], p.skip 1)
    | c :: s =>
      if endsWord (c :: s) then
        let (g, q) := p.gap
        if q.atMark then none else prepend g.folded (readSingle fuel q)
      else
        prepend [c] (readSingle fuel (p.skip 1))

/-- The code point of an escape without digits. -/
def escape? : Char → Option Nat
  | '0' => some 0x0
  | 'a' => some 0x7
  | 'b' => some 0x8
  | 't' => some 0x9
  | '\t' => some 0x9
  | 'n' => some 0xA
  | 'v' => some 0xB
  | 'f' => some 0xC
  | 'r' => some 0xD
  | 'e' => some 0x1B
  | ' ' => some 0x20
  | '"' => some 0x22
  | '/' => some 0x2F
  | '\\' => some 0x5C
  | 'N' => some 0x85
  | '_' => some 0xA0
  | 'L' => some 0x2028
  | 'P' => some 0x2029
  | _ => none

/-- Number of digits of an escape with digits. -/
def escapeDigits? : Char → Option Nat
  | 'x' => some 2
  | 'u' => some 4
  | 'U' => some 8
  | _ => none

/-- The character of a code point, unless it is none. -/
def charOf? (n : Nat) : Option Char := if n.isValidChar then some (Char.ofNat n) else none

/-- The character of the escape that a text begins with behind its backslash, and the
number of characters it takes. -/
def readEscape : List Char → Option (Char × Nat)
  | [] => none
  | c :: s =>
    match escapeDigits? c with
    | none => ((escape? c).bind charOf?).map fun x => (x, 1)
    | some k =>
      if (s.take k).length = k then
        ((Text.natural? 16 (s.take k)).bind charOf?).map fun x => (x, k + 1)
      else
        none

/-- A text between double quotes, from behind the opening one; `fuel` bounds its
length.  A backslash before a line end takes it away, and with it the space before the
next word. -/
def readDouble : Nat → Cursor → ScalarReading
  | 0, _ => none
  | fuel + 1, p =>
    match p.rest with
    | [] => none
    | '"' :: _ => some ([], p.skip 1)
    | '\\' :: s =>
      if s.head?.any isBreak then
        let (g, q) := (p.skip 1).gap
        if q.atMark then none else prepend (g.breaks.drop 1) (readDouble fuel q)
      else
        match readEscape s with
        | none => none
        | some (x, k) => prepend [x] (readDouble fuel (p.skip (k + 1)))
    | c :: s =>
      if endsWord (c :: s) then
        let (g, q) := p.gap
        if q.atMark then none else prepend g.folded (readDouble fuel q)
      else
        prepend [c] (readDouble fuel (p.skip 1))

/-- The text between quotes of either kind at a place; `fuel` bounds its length. -/
def readQuoted (fuel : Nat) (p : Cursor) : ScalarReading :=
  match p.rest with
  | '\'' :: _ => readSingle fuel (p.skip 1)
  | '"' :: _ => readDouble fuel (p.skip 1)
  | _ => none

/-! ## Plain scalars -/

/-- Whether `c` is a bracket or comma of a flow collection. -/
def isFlowMark (c : Char) : Bool := c == ',' || c == '[' || c == ']' || c == '{' || c == '}'

/-- Whether `c` cannot begin a plain scalar, whatever follows it. -/
def isIndicator (c : Char) : Bool := isFlowMark c || "#&*!|>'\"%@\x60".toList.contains c

/-- Whether a text begins a plain scalar.  Dash, question mark and colon do before a
character of the same word, but the latter two not in a flow collection. -/
def beginsPlain (inFlow : Bool) : List Char → Bool
  | [] => false
  | c :: s =>
    if endsWord (c :: s) then false
    else if c == '-' then !endsWord s
    else if c == '?' || c == ':' then !inFlow && !endsWord s
    else !isIndicator c

/-- Whether a plain scalar ends within a word, before a text. -/
def endsPlain (inFlow : Bool) : List Char → Bool
  | [] => true
  | c :: s => endsWord (c :: s) || (c == ':' && endsWord s) || (inFlow && isFlowMark c)

/-- Whether a text begins with a colon that a flow collection does not admit in a
word: it stands before a question mark, a bracket or a comma. -/
def isMisplacedColon : List Char → Bool
  | ':' :: c :: _ => c == '?' || isFlowMark c
  | _ => false

/-- The word of a plain scalar at the head of a text; refused at a colon that is not
admitted there. -/
def word? (inFlow : Bool) : List Char → Option (List Char)
  | [] => some []
  | c :: s =>
    if inFlow && isMisplacedColon (c :: s) then none
    else if endsPlain inFlow (c :: s) then some []
    else (word? inFlow s).map (c :: ·)

/-- Whether a plain scalar goes on at the place behind a gap: not at a mark, a comment
or a character that ends it, and outside of flow collections not before the column
`least`. -/
def goesOn (inFlow : Bool) (least : Nat) (p : Cursor) : Bool :=
  (inFlow || least ≤ p.column) && !p.atMark && p.rest.head? != some '#'
    && !endsPlain inFlow p.rest

/-- A plain scalar at a place, the gap that follows it and the place behind that;
`fuel` bounds the number of its words.  Behind a line end no tab may stand before the
column `least`. -/
def readPlain (inFlow : Bool) (least : Nat) : Nat → Cursor → Option (List Char × Gap × Cursor)
  | 0, _ => none
  | fuel + 1, p =>
    match word? inFlow p.rest with
    | none => none
    | some w =>
      let (g, q) := (p.skip w.length).gap
      if g.tabs.any (· < least) then none
      else if goesOn inFlow least q then
        (readPlain inFlow least fuel q).map fun (t, rest) => (w ++ g.folded ++ t, rest)
      else
        some (w, g, q)

end SplitTest.Yaml

import SplitTest.Json.Fault

/-!
# String literals

A string literal stands between double quotes.  `encode` escapes the quote, the
backslash and the control characters below U+0020, the common ones by their short
escapes and the others by `\u00xx`; all else, non-ASCII and U+007F included,
stands for itself.

`readBody` reads what follows the opening quote and takes any escape, pairs of
surrogates included.  An unpaired surrogate names no character, so a literal that
holds one has no text; `skipBody` only finds where such a literal ends.  A text that
ends before the four digits of an escape do is unfinished; with other characters for
them the fault is seen behind four bytes.
-/

namespace SplitTest.Json

open SplitTest.Text

/-- A character as it stands in a literal. -/
def encodeChar (c : Char) : List Char :=
  if c = '"' then ['\\', '"']
  else if c = '\\' then ['\\', '\\']
  else if c.toNat = 0x8 then ['\\', 'b']
  else if c.toNat = 0x9 then ['\\', 't']
  else if c.toNat = 0xA then ['\\', 'n']
  else if c.toNat = 0xC then ['\\', 'f']
  else if c.toNat = 0xD then ['\\', 'r']
  else if c.toNat < 0x20 then '\\' :: 'u' :: zeroPadded 4 (hexadecimal c.toNat)
  else [c]

/-- The literal of a text, with its quotes. -/
def encode (s : List Char) : List Char := '"' :: s.flatMap encodeChar ++ ['"']

/-- The character a one-letter escape stands for. -/
def shortEscape? : Char → Option Char
  | '"' => some '"'
  | '\\' => some '\\'
  | '/' => some '/'
  | 'b' => some (Char.ofNat 0x8)
  | 'f' => some (Char.ofNat 0xC)
  | 'n' => some '\n'
  | 'r' => some '\r'
  | 't' => some '\t'
  | _ => none

/-- The number written by four hexadecimal digits. -/
def unit? (a b c d : Char) : Option Nat := natural? 16 [a, b, c, d]

/-- Whether a 16-bit unit is the first half of a surrogate pair. -/
def isHighSurrogate (u : Nat) : Bool := 0xD800 ≤ u && u ≤ 0xDBFF

/-- Whether a 16-bit unit is the second half of a surrogate pair. -/
def isLowSurrogate (u : Nat) : Bool := 0xDC00 ≤ u && u ≤ 0xDFFF

/-- The character a surrogate pair stands for. -/
def pairChar (high low : Nat) : Char :=
  Char.ofNat (0x10000 + (high - 0xD800) * 0x400 + (low - 0xDC00))

/-- A character in front of what was read. -/
def consChar (c : Char) (r : Front (List Char)) : Front (List Char) :=
  r.map fun (t, rest) => (c :: t, rest)

/-- Where a text that does not begin with four hexadecimal digits is left, though it
should. -/
def notAUnit (s : List Char) : Stop :=
  if byteSize s < 4 then .atEnd .string else .behind .escape 4 s

/-- Where a text behind the first half of a surrogate pair is left, if it does not begin
with an escape of four hexadecimal digits. -/
def notAHalf : List Char → Stop
  | [] => .atEnd .string
  | ['\\'] => .atEnd .string
  | '\\' :: 'u' :: s => notAUnit s
  | '\\' :: s => .behind .noSecondHalf 1 s
  | s => .behind .noSecondHalf 1 s

/-- The text of a literal and what follows it, read from behind the opening quote. -/
def readBody : List Char → Front (List Char)
  | [] => .error (.atEnd .string)
  | '"' :: s => .ok ([], s)
  | '\\' :: 'u' :: a :: b :: c :: d :: s =>
    match unit? a b c d with
    | none => .error (notAUnit (a :: b :: c :: d :: s))
    | some u =>
      if isHighSurrogate u then
        match s with
        | '\\' :: 'u' :: e :: f :: g :: h :: s' =>
          match unit? e f g h with
          | none => .error (notAUnit (e :: f :: g :: h :: s'))
          | some v =>
            if isLowSurrogate v then consChar (pairChar u v) (readBody s')
            else .error (.before .loneSurrogate s')
        | s => .error (notAHalf s)
      else if isLowSurrogate u then .error (.before .loneSurrogate s)
      else consChar (Char.ofNat u) (readBody s)
  | '\\' :: 'u' :: s => .error (notAUnit s)
  | ['\\'] => .error (.atEnd .string)
  | '\\' :: c :: s =>
    match shortEscape? c with
    | none => .error (.behind .escape 1 (c :: s))
    | some x => consChar x (readBody s)
  | c :: s => if c.toNat < 0x20 then .error (.before .control s) else consChar c (readBody s)

/-- What follows a literal, read from behind the opening quote, whether or not its
escapes name characters. -/
def skipBody : List Char → Option (List Char)
  | [] => none
  | '"' :: s => some s
  | '\\' :: 'u' :: a :: b :: c :: d :: s => if (unit? a b c d).isSome then skipBody s else none
  | '\\' :: c :: s => if (shortEscape? c).isSome then skipBody s else none
  | c :: s => if c.toNat < 0x20 then none else skipBody s

/-- Whether `c` may stand between tokens: space, tab, line feed, carriage return. -/
def isSpace (c : Char) : Bool := c == ' ' || c == '\t' || c == '\n' || c == '\r'

/-- The text from the first character that is not space. -/
def skipSpace (s : List Char) : List Char := s.dropWhile isSpace

end SplitTest.Json

/-!
# Blank characters

A blank is a character with the Unicode `White_Space` property: the tab to
carriage return block, space, next line, no-break space, the ogham space mark,
the general-punctuation spaces, the line and paragraph separators, the narrow
no-break space, the medium mathematical space and the ideographic space.  The
zero-width characters and the information separators are not blanks.
-/

namespace SplitTest.Text

/-- Whether `c` has the `White_Space` property. -/
def isBlank (c : Char) : Bool :=
  let n := c.toNat
  (0x9 ≤ n && n ≤ 0xD) || n == 0x20 || n == 0x85 || n == 0xA0 || n == 0x1680
    || (0x2000 ≤ n && n ≤ 0x200A) || n == 0x2028 || n == 0x2029 || n == 0x202F
    || n == 0x205F || n == 0x3000

/-- The text without the blanks at its start. -/
def trimStart (s : List Char) : List Char := s.dropWhile isBlank

/-- The text without the blanks at its end. -/
def trimEnd (s : List Char) : List Char := (s.reverse.dropWhile isBlank).reverse

/-- The text without the blanks at either end. -/
def trim (s : List Char) : List Char := trimEnd (trimStart s)

/-- `trim` on strings. -/
def trimmed (s : String) : String := .ofList (trim s.toList)

end SplitTest.Text

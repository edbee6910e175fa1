import SplitTest.Text.Numeral
import SplitTest.Text.Printable

/-!
# Faults of JSON texts

Why a text cannot be read, and where.  A reader stops with the cause and with the
number of bytes left behind the place of the fault, so it needs to know nothing of the
text in front of it; `Stop.within` finds the line and the column of that place.  Lines
are counted from one, and a column is the number of bytes of the line up to the place.
-/

namespace SplitTest.Json

open SplitTest.Text

/-- What a text can end within. -/
inductive Part where
  | list
  | string
  | value
deriving DecidableEq, Repr

/-- A value that stands where one of another type is wanted. -/
inductive Misfit where
  /-- The word `null`. -/
  | null
  /-- A truth value. -/
  | truth (b : Bool)
  /-- A number that is an integer of 64 bits. -/
  | integer (n : Int)
  /-- Any other number, as a double is written. -/
  | fraction (written : String)
  /-- A string. -/
  | text (s : String)
  /-- An array. -/
  | array
  /-- An object. -/
  | object
deriving DecidableEq, Repr

/-- The type of a wanted value. -/
inductive Wanted where
  | array
  | string
deriving DecidableEq, Repr

/-- Why a text cannot be read. -/
inductive Cause where
  /-- The text ends too early. -/
  | unfinished (part : Part)
  /-- No value begins here. -/
  | noValue
  /-- A letter does not belong to the word that was begun. -/
  | word
  /-- An element is followed by neither comma nor bracket. -/
  | noSeparator
  /-- No escape is written like this. -/
  | escape
  /-- No number is written like this. -/
  | number
  /-- A number is out of range. -/
  | numberRange
  /-- A control character stands in a string. -/
  | control
  /-- Half of a surrogate pair stands where it has no other half. -/
  | loneSurrogate
  /-- No escape follows the first half of a surrogate pair. -/
  | noSecondHalf
  /-- A comma stands before a closing bracket. -/
  | trailingComma
  /-- Something follows the value. -/
  | trailingText
  /-- A value has the wrong type. -/
  | misfit (found : Misfit) (wanted : Wanted)
deriving DecidableEq, Repr

/-! ## Texts -/

/-- The name of the part. -/
def Part.name : Part → String
  | list => "a list"
  | string => "a string"
  | value => "a value"

/-- The value in words. -/
def Misfit.name : Misfit → String
  | null => "null"
  | truth b => "boolean `" ++ (if b then "true" else "false") ++ "`"
  | integer n => "integer `" ++ ofInt n ++ "`"
  | fraction written => "floating point `" ++ written ++ "`"
  | text s => "string " ++ quoted s
  | array => "sequence"
  | object => "map"

/-- The type in words. -/
def Wanted.name : Wanted → String
  | array => "a sequence"
  | string => "a string"

/-- The text of the cause. -/
def Cause.message : Cause → String
  | unfinished part => "EOF while parsing " ++ part.name
  | noValue => "expected value"
  | word => "expected ident"
  | noSeparator => "expected `,` or `]`"
  | escape => "invalid escape"
  | number => "invalid number"
  | numberRange => "number out of range"
  | control => "control character (\\u0000-\\u001F) found while parsing a string"
  | loneSurrogate => "lone leading surrogate in hex escape"
  | noSecondHalf => "unexpected end of hex escape"
  | trailingComma => "trailing comma"
  | trailingText => "trailing characters"
  | misfit found wanted => "invalid type: " ++ found.name ++ ", expected " ++ wanted.name

/-! ## Places -/

/-- Number of bytes of a text. -/
def byteSize (s : List Char) : Nat := s.foldr (fun c n => c.utf8Size + n) 0

/-- A place in a text. -/
structure Place where
  /-- Number of the line, from one. -/
  line : Nat
  /-- Number of bytes of the line before the place. -/
  column : Nat
deriving DecidableEq, Repr

/-- The place `n` bytes on in a text that begins at `p`. -/
def Place.advance (p : Place) : Nat → List Char → Place
  | n, [] => ⟨p.line, p.column + n⟩
  | n, c :: s =>
    if n < c.utf8Size then ⟨p.line, p.column + n⟩
    else if c = '\n' then advance ⟨p.line + 1, 0⟩ (n - c.utf8Size) s
    else advance ⟨p.line, p.column + c.utf8Size⟩ (n - c.utf8Size) s

/-- A fault of a text. -/
structure Fault where
  /-- What is wrong. -/
  cause : Cause
  /-- Where it was seen. -/
  place : Place
deriving DecidableEq, Repr

/-- The text of the fault. -/
def Fault.message (f : Fault) : String :=
  f.cause.message ++ " at line " ++ ofNat f.place.line ++ " column " ++ ofNat f.place.column

/-- Where a reader stopped. -/
structure Stop where
  /-- What is wrong. -/
  cause : Cause
  /-- Number of bytes behind the place. -/
  left : Nat
deriving DecidableEq, Repr

namespace Stop

/-- Stop before a text. -/
def before (cause : Cause) (rest : List Char) : Stop := ⟨cause, byteSize rest⟩

/-- Stop behind the first `n` bytes of a text, or behind its last one. -/
def behind (cause : Cause) (n : Nat) (rest : List Char) : Stop := ⟨cause, byteSize rest - n⟩

/-- Stop at the end of the text. -/
def atEnd (part : Part) : Stop := ⟨.unfinished part, 0⟩

/-- The fault of the whole text. -/
def within (stop : Stop) (s : List Char) : Fault :=
  ⟨stop.cause, Place.advance ⟨1, 0⟩ (byteSize s - stop.left) s⟩

end Stop

/-- What the front of a text is read as, and the text behind it. -/
abbrev Front (α : Type) := Except Stop (α × List Char)

end SplitTest.Json

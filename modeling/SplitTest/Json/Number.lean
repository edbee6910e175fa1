import SplitTest.Json.Fault
import SplitTest.Json.Range
import SplitTest.Text.Shortest

/-!
# Numbers

The grammar of a number: digits without a needless zero in front, then a point and
digits, then an exponent, the last two left out if not wanted.  A number without them
that fits 64 bits is an integer; the others, a negative zero among them, are doubles.
-/

namespace SplitTest.Json

open SplitTest.Text

-- powers are those of the natural numbers themselves, not of a monoid
attribute [local instance (high)] instPowNat

/-! ## Grammar -/

/-- The digits at the head of a text, at least one. -/
def digits (s : List Char) : Front (List Char) :=
  match s with
  | [] => .error (.atEnd .value)
  | c :: _ =>
    if isDigit c then .ok (s.takeWhile isDigit, s.dropWhile isDigit)
    else .error (.behind .number 1 s)

/-- The digits of a whole number: a zero, or digits that do not begin with one. -/
def whole : List Char → Front (List Char)
  | '0' :: c :: s => if isDigit c then .error (.behind .number 1 (c :: s)) else .ok (['0'], c :: s)
  | s => digits s

/-- A point and digits, or nothing. -/
def fraction : List Char → Front (List Char)
  | '.' :: s => (digits s).map fun (ds, rest) => ('.' :: ds, rest)
  | s => .ok ([], s)

/-- The mark of an exponent, a sign if there is one, and digits; or nothing. -/
def exponent : List Char → Front (List Char)
  | c :: s =>
    if c = 'e' ∨ c = 'E' then
      match s with
      | '+' :: s => (digits s).map fun (ds, rest) => (c :: '+' :: ds, rest)
      | '-' :: s => (digits s).map fun (ds, rest) => (c :: '-' :: ds, rest)
      | s => (digits s).map fun (ds, rest) => (c :: ds, rest)
    else
      .ok ([], c :: s)
  | [] => .ok ([], [])

/-- A number without its sign. -/
def magnitude (s : List Char) : Except Stop (List Char × List Char) := do
  let (a, s) ← whole s
  let (b, s) ← fraction s
  let (c, s) ← exponent s
  return (a ++ b ++ c, s)

/-! ## Value -/

/-- The number as a double: the product or the quotient of the doubles nearest to its
digits and to the power of ten, or the quotient by two powers if one is not a double. -/
def Scaled.toDouble (x : Scaled) : Float :=
  let power (k : Nat) : Float := Float.ofScientific 1 false k
  let digits := x.digits.toUInt64.toFloat
  let places := (-x.exponent).toNat
  if x.digits = 0 then 0.0
  else if 0 ≤ x.exponent then digits * power x.exponent.toNat
  else if places ≤ 308 then digits / power places
  else if places ≤ 616 then digits / power 308 / power (places - 308)
  else 0.0

/-- The text of a number read as a double, with its sign. -/
def doubleText (negative : Bool) (x : Scaled) : String :=
  (if negative then "-" else "") ++ ofDouble x.toDouble

/-- The digits behind the one with which an exponent is beyond 32 bits, the digits
before being worth `acc`. -/
def exponentExcess (acc : Nat) : List Char → List Char
  | [] => []
  | c :: s =>
    let n := acc * 10 + (digit? 10 c).getD 0
    if n < 2 ^ 31 then exponentExcess n s else s

/-- The digits of an exponent of a number as it is written. -/
def exponentDigits (written : List Char) : List Char :=
  ((written.dropWhile fun c => c != 'e' && c != 'E').drop 1).dropWhile fun c => !isDigit c

/-- The integer that a number is, if it is written without point and exponent and fits
64 bits, with a sign if it is negative. -/
def integer? (negative : Bool) (written : List Char) : Option Int :=
  if negative then
    ((natural? 10 written).filter fun n => 0 < n && n ≤ 2 ^ (63 : Nat)).map fun n => -(n : Int)
  else
    ((natural? 10 written).filter (· < 2 ^ (64 : Nat))).map Int.ofNat

/-- A number that stands where another value is wanted, read from behind its sign.  One
that is out of range is left behind the digit of its exponent that makes it so. -/
def readMisfitNumber (negative : Bool) (s : List Char) : Except Stop (Misfit × List Char) := do
  let (written, rest) ← magnitude s
  match integer? negative written with
  | some n => return (.integer n, rest)
  | none =>
    let scaled := Scaled.ofParts (.ofWritten written)
    if scaled.isInRange then
      return (.fraction (doubleText negative scaled), rest)
    else
      throw (.before .numberRange (exponentExcess 0 (exponentDigits written) ++ rest))

end SplitTest.Json

import SplitTest.Text.Double

/-!
# Range of JSON numbers

A number whose value is wanted is read in two factors, its digits and a power of ten.
Of the digits only those at the front that fit 64 bits count; each later one before
the point adds to the power and each later one behind it is dropped.  The number is
out of range if the product of the doubles nearest to the two factors is, so a number
just below the greatest double can be out of range.
-/

namespace SplitTest.Json

open SplitTest.Text

-- powers are those of the natural numbers themselves, not of a monoid
attribute [local instance (high)] instPowNat

/-- The number `digits * 10 ^ exponent`. -/
structure Scaled where
  /-- The digits, which fit 64 bits. -/
  digits : Nat
  /-- The power of ten. -/
  exponent : Int

namespace Scaled

/-- The number with the digits that fit behind its own, and the digits that do not. -/
def push (x : Scaled) : List Char → Scaled × List Char
  | [] => (x, [])
  | c :: s =>
    let digits := x.digits * 10 + (digit? 10 c).getD 0
    if digits < 2 ^ 64 then push ⟨digits, x.exponent⟩ s else (x, c :: s)

/-- The number that is read from a decimal one. -/
def ofParts (x : DecimalParts) : Scaled :=
  let (whole, dropped) := push ⟨0, 0⟩ x.whole
  let (all, unread) := push whole x.fraction
  { digits := all.digits
    exponent := x.exponent + dropped.length - (x.fraction.length - unread.length) }

/-- Whether the product of the doubles nearest to the factors is in range. -/
def isInRange (x : Scaled) : Bool :=
  if x.digits = 0 || x.exponent < 0 then true
  else if 308 < x.exponent then false
  else nearestDouble x.digits * nearestDouble (10 ^ x.exponent.toNat) < doubleBound

end Scaled

/-- Whether a number as it is written is in range, on either side of zero. -/
def isInRange : List Char → Bool
  | '-' :: s => (Scaled.ofParts (.ofWritten s)).isInRange
  | s => (Scaled.ofParts (.ofWritten s)).isInRange

end SplitTest.Json

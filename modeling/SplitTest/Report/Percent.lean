import SplitTest.Text.Double

/-!
# Percentages

A share is computed in double precision, `n` times a hundred divided by the whole,
and written with two places.  What is rounded is the exact value of the double,
and a tie goes to the even neighbour.
-/

namespace SplitTest.Report

open SplitTest.Text

/-- A whole number of hundredths with a point and two places. -/
def hundredths (n : Nat) : String :=
  ofNat (n / 100) ++ "." ++ .ofList (zeroPadded 2 (decimal (n % 100)))

/-- The share of `n` in `whole` in per cent, zero if there is no whole. -/
def percent (n whole : Nat) : String :=
  if whole = 0 then hundredths 0
  else
    let (a, b) := (Binary.ofDouble (n.toUInt64.toFloat * 100.0 / whole.toUInt64.toFloat)).fraction
    hundredths (roundDiv (a * 100) b)

end SplitTest.Report

import SplitTest.Text.Double

/-!
# Doubles in the fewest digits

The decimals that are read as a double fill a span around its value.  A double is
written as the one of them with the fewest digits, and of several with as few as the
nearest.  The digits are sought on the grids of the powers of ten, the coarsest first,
in whole numbers throughout.
-/

namespace SplitTest.Text

-- powers are those of the natural numbers themselves, not of a monoid
attribute [local instance (high)] instPowNat

/-- The numbers that are read as a double, over one denominator. -/
structure Span where
  /-- The value of the double. -/
  value : Nat
  /-- The lower end. -/
  low : Nat
  /-- The upper end. -/
  high : Nat
  /-- What the three are divided by. -/
  denominator : Nat
  /-- Whether the ends belong to the span. -/
  closed : Bool

namespace Span

/-- The span of a double that is not zero.  It ends half-way to the next doubles, and
its ends are read as the double if its last binary digit is even. -/
def ofBinary (x : Binary) : Span :=
  let unit := 2 ^ x.exponent.toNat
  let below := if x.narrowBelow then 1 else 2
  { value := 4 * x.significand * unit
    low := (4 * x.significand - below) * unit
    high := (4 * x.significand + 2) * unit
    denominator := 4 * 2 ^ (-x.exponent).toNat
    closed := x.significand % 2 = 0 }

/-- Whether `n * 10 ^ k` belongs to the span. -/
def contains (s : Span) (n : Nat) (k : Int) : Bool :=
  let a := n * 10 ^ k.toNat * s.denominator
  let b := 10 ^ (-k).toNat
  if s.closed then s.low * b ≤ a && a ≤ s.high * b else s.low * b < a && a < s.high * b

/-- The least `p` such that the value is less than `10 ^ p`. -/
def magnitude (s : Span) : Int :=
  let p : Int := (decimal s.value).length - (decimal s.denominator).length
  if s.value * 10 ^ (-p).toNat < s.denominator * 10 ^ p.toNat then p else p + 1

/-- The multiple of `10 ^ k` nearest to the value. -/
def nearest (s : Span) (k : Int) : Nat :=
  roundDiv (s.value * 10 ^ (-k).toNat) (s.denominator * 10 ^ k.toNat)

/-- The multiple of `10 ^ k` within the span that is nearest to the value. -/
def onGrid? (s : Span) (k : Int) : Option Nat :=
  let n := s.value * 10 ^ (-k).toNat / (s.denominator * 10 ^ k.toNat)
  match s.contains n k, s.contains (n + 1) k with
  | true, true => some (s.nearest k)
  | true, false => some n
  | false, true => some (n + 1)
  | false, false => none

/-- The first hit on the grids from `10 ^ k` on, of which there are `finer` more. -/
def seek (s : Span) : Nat → Int → Nat × Int
  | 0, k => (s.nearest k, k)
  | finer + 1, k =>
    match s.onGrid? k with
    | some n => (n, k)
    | none => seek s finer (k - 1)

/-- The digits and the power of ten of the shortest decimal; seventeen digits are
always enough. -/
def shortest (s : Span) : Nat × Int := s.seek 16 (s.magnitude - 1)

end Span

/-! ## Layout -/

/-- The digits `ds` with the point behind the first `point` of them: in place if it is
not far from them, else behind the first with a power of ten. -/
def withPoint (ds : List Char) (point : Int) : List Char :=
  let zeros (n : Int) : List Char := List.replicate n.toNat '0'
  if ds.length ≤ point ∧ point ≤ 16 then ds ++ zeros (point - ds.length) ++ ['.', '0']
  else if 0 < point ∧ point ≤ 16 then ds.take point.toNat ++ '.' :: ds.drop point.toNat
  else if -5 < point ∧ point ≤ 0 then '0' :: '.' :: zeros (-point) ++ ds
  else
    let mantissa := match ds with
      | d :: e :: ds => d :: '.' :: e :: ds
      | ds => ds
    let exponent := point - 1
    mantissa ++ 'e' :: (if exponent < 0 then '-' else '+') :: decimal exponent.natAbs

/-- A finite double that is not negative, in the fewest digits. -/
def ofDouble (x : Float) : String :=
  let value := Binary.ofDouble x
  if value.significand = 0 then "0.0"
  else
    let (n, k) := (Span.ofBinary value).shortest
    let ds := decimal n
    let trimmed := (ds.reverse.dropWhile (· == '0')).reverse
    .ofList (withPoint trimmed (ds.length + k))

end SplitTest.Text

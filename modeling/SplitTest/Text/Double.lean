import SplitTest.Text.Numeral

/-!
# Doubles

A double holds 53 binary digits and is less than `2 ^ 1024`.  A number is in range if it
rounds to a double: if it is less than half a unit beyond the greatest one.
-/

namespace SplitTest.Text

-- powers are those of the natural numbers themselves, not of a monoid
attribute [local instance (high)] instPowNat

/-- The quotient rounded to the nearest whole number, a tie to the even one. -/
def roundDiv (a b : Nat) : Nat :=
  let q := a / b
  let r := a % b
  if 2 * r < b then q
  else if b < 2 * r then q + 1
  else if q % 2 = 0 then q else q + 1

/-! ## The value of a double -/

/-- The number `significand * 2 ^ exponent`, which is that of a double. -/
structure Binary where
  /-- The binary digits. -/
  significand : Nat
  /-- The power of two. -/
  exponent : Int
  /-- Whether the next lower double is only half as far away as the next higher one. -/
  narrowBelow : Bool

namespace Binary

/-- The value of a finite double without its sign. -/
def ofDouble (x : Float) : Binary :=
  let bits := x.toBits.toNat
  let exponent := bits / 2 ^ (52 : Nat) % 2 ^ (11 : Nat)
  let rest := bits % 2 ^ (52 : Nat)
  { significand := if exponent = 0 then rest else 2 ^ (52 : Nat) + rest
    exponent := (max exponent 1 : Nat) - 1075
    narrowBelow := rest = 0 && 1 < exponent }

/-- The value as a fraction. -/
def fraction (x : Binary) : Nat × Nat :=
  (x.significand * 2 ^ x.exponent.toNat, 2 ^ (-x.exponent).toNat)

end Binary

/-! ## Range -/

/-- The least natural number that is out of range. -/
def doubleBound : Nat := 2 ^ (1024 : Nat) - 2 ^ (970 : Nat)

/-- The double nearest to a natural number below `doubleBound`, and of two as near the
one with an even last digit. -/
def nearestDouble (n : Nat) : Nat :=
  let unit := 2 ^ (n.log2 + 1 - 53)
  roundDiv n unit * unit

/-- Whether `digits * 10 ^ exponent` is in range. -/
def isInDoubleRange (digits : Nat) (exponent : Int) : Bool :=
  let places := exponent + (decimal digits).length
  if digits = 0 || places ≤ 308 then true
  else if 309 < places then false
  else if 0 ≤ exponent then decide (digits * 10 ^ exponent.toNat < doubleBound)
  else decide (digits < doubleBound * 10 ^ (-exponent).toNat)

/-! ## Decimal numbers -/

/-- A decimal number without sign: digits around a point, times a power of ten. -/
structure DecimalParts where
  /-- The digits before the point. -/
  whole : List Char
  /-- The digits behind the point. -/
  fraction : List Char
  /-- The exponent. -/
  exponent : Int

/-- The number behind the mark of an exponent. -/
def exponentOf : List Char → Int
  | '+' :: ds => (natural? 10 ds).getD 0
  | '-' :: ds => -((natural? 10 ds).getD 0 : Nat)
  | ds => (natural? 10 ds).getD 0

/-- The parts of a number written with digits, a point and an exponent. -/
def DecimalParts.ofWritten (written : List Char) : DecimalParts :=
  let isMark (c : Char) : Bool := c == 'e' || c == 'E'
  let mantissa := written.takeWhile fun c => !isMark c
  { whole := mantissa.takeWhile (· != '.')
    fraction := (mantissa.dropWhile (· != '.')).drop 1
    exponent := exponentOf ((written.dropWhile fun c => !isMark c).drop 1) }

/-- Whether a decimal number is in range. -/
def DecimalParts.isInDoubleRange (x : DecimalParts) : Bool :=
  Text.isInDoubleRange ((natural? 10 (x.whole ++ x.fraction)).getD 0)
    (x.exponent - x.fraction.length)

end SplitTest.Text

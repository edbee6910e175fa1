/-!
# Numerals

Reading and writing natural numbers and integers in a base.  The readers take
digits only, apart from the leading plus sign that `unsigned?` allows, and
refuse a value that does not fit.
-/

namespace SplitTest.Text

/-- The value of a digit of the given base, letters of either case. -/
def digit? (base : Nat) (c : Char) : Option Nat :=
  let v :=
    if '0' ≤ c ∧ c ≤ '9' then some (c.toNat - '0'.toNat)
    else if 'a' ≤ c ∧ c ≤ 'z' then some (c.toNat - 'a'.toNat + 10)
    else if 'A' ≤ c ∧ c ≤ 'Z' then some (c.toNat - 'A'.toNat + 10)
    else none
  v.filter (· < base)

/-- Whether `c` is one of `0` to `9`. -/
def isDigit (c : Char) : Bool := (digit? 10 c).isSome

/-- Whether `c` is a hexadecimal digit of either case. -/
def isHexDigit (c : Char) : Bool := (digit? 16 c).isSome

/-- The value of a string of digits, read onto `acc`. -/
def digitsOnto? (base : Nat) : Nat → List Char → Option Nat
  | acc, [] => some acc
  | acc, c :: s => (digit? base c).bind fun d => digitsOnto? base (acc * base + d) s

/-- The value of a non-empty string of digits. -/
def natural? (base : Nat) (s : List Char) : Option Nat :=
  if s.isEmpty then none else digitsOnto? base 0 s

/-- A natural number below `bound`: an optional plus sign, then digits. -/
def unsigned? (base bound : Nat) (s : List Char) : Option Nat :=
  let digits := match s with
    | '+' :: rest => rest
    | _ => s
  (natural? base digits).filter (· < bound)

/-- The decimal digits of a natural number. -/
def decimal (n : Nat) : List Char := Nat.toDigits 10 n

/-- The lower-case hexadecimal digits of a natural number. -/
def hexadecimal (n : Nat) : List Char := Nat.toDigits 16 n

/-- A natural number in decimal. -/
def ofNat (n : Nat) : String := .ofList (decimal n)

/-- An integer in decimal, with a minus sign when negative. -/
def ofInt : Int → String
  | .ofNat n => ofNat n
  | .negSucc n => .ofList ('-' :: decimal (n + 1))

/-- The digits of `n` with zeros in front up to `width` characters. -/
def zeroPadded (width : Nat) (digits : List Char) : List Char :=
  List.replicate (width - digits.length) '0' ++ digits

/-- The text with spaces in front up to `width` characters. -/
def padLeft (width : Nat) (s : String) : String :=
  .ofList (List.replicate (width - s.length) ' ' ++ s.toList)

/-- The text with spaces behind up to `width` characters. -/
def padRight (width : Nat) (s : String) : String :=
  .ofList (s.toList ++ List.replicate (width - s.length) ' ')

end SplitTest.Text

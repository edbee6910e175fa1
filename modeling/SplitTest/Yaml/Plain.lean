import SplitTest.Document.Node
import SplitTest.Text.Double

/-!
# What plain scalars mean

A plain scalar is a number, a truth value or nothing if it is written like one.  A
whole number is decimal without needless zeros, or has a base mark (`0x`, `0o`,
`0b`) behind its sign.  One of more than 64 bits is told from a fraction up to 128
bits, and no further.
-/

namespace SplitTest.Yaml

open SplitTest.Document SplitTest.Text

-- powers are those of the natural numbers themselves, not of a monoid
attribute [local instance (high)] instPowNat

/-- Whether a plain scalar is written like nothing. -/
def isNull (s : List Char) : Bool :=
  ["", "~", "null", "Null", "NULL"].any fun w => w.toList == s

/-- The truth value a plain scalar is written like. -/
def truth? (s : List Char) : Option Bool :=
  if ["true", "True", "TRUE"].any fun w => w.toList == s then some true
  else if ["false", "False", "FALSE"].any fun w => w.toList == s then some false
  else none

/-- The natural number of digits in decimal or behind a base mark; a decimal number
of several digits does not begin with zero. -/
def magnitude? (s : List Char) : Option Nat :=
  match s with
  | '0' :: 'x' :: ds => Text.natural? 16 ds
  | '0' :: 'o' :: ds => Text.natural? 8 ds
  | '0' :: 'b' :: ds => Text.natural? 2 ds
  | '0' :: _ :: _ => none
  | ds => Text.natural? 10 ds

/-- The natural number a plain scalar is written like. -/
def natural? : List Char → Option Nat
  | '+' :: ds => magnitude? ds
  | ds => magnitude? ds

/-- The whole number a plain scalar is written like. -/
def integer? : List Char → Option Int
  | '-' :: ds => (magnitude? ds).map fun n => -(n : Int)
  | ds => (natural? ds).map Int.ofNat

/-- Whether a text is digits with at most one point among them, and an exponent if
it has one. -/
def isDecimalFraction (s : List Char) : Bool :=
  let mantissa := s.takeWhile fun c => isDigit c || c == '.'
  let dots := mantissa.count '.'
  let hasDigits := mantissa.any isDigit
  let exponent := match s.dropWhile fun c => isDigit c || c == '.' with
    | [] => true
    | c :: rest =>
      let ds := match rest with
        | '+' :: ds => ds
        | '-' :: ds => ds
        | ds => ds
      (c == 'e' || c == 'E') && !ds.isEmpty && ds.all isDigit
  hasDigits && dots ≤ 1 && exponent

/-- Whether a plain scalar is written like a fraction in the range of doubles, like an
infinity, or like no number. -/
def isFraction (s : List Char) : Bool :=
  let unsigned := match s with
    | '+' :: t => t
    | '-' :: t => t
    | t => t
  if [".nan", ".NaN", ".NAN"].any fun w => w.toList == s then true
  else if [".inf", ".Inf", ".INF"].any fun w => w.toList == unsigned then true
  else
    isDecimalFraction unsigned && !(unsigned.all isDigit && unsigned.head? == some '0')
      && (DecimalParts.ofWritten unsigned).isInDoubleRange

/-- What a plain scalar is written like. -/
inductive Meaning where
  /-- Nothing. -/
  | nothing
  /-- A truth value. -/
  | truth (b : Bool)
  /-- A whole number of at most 64 bits. -/
  | whole (n : Int)
  /-- A whole number of more than 64 bits and at most 128. -/
  | oversized
  /-- A number that is not whole, or too large to be told from one. -/
  | fraction
  /-- A text. -/
  | text
deriving DecidableEq, Repr

/-- Whether a whole number has at most so many bits, with a sign if it is negative. -/
def fitsBits (bits : Nat) (n : Int) : Bool := -(2 ^ (bits - 1) : Int) ≤ n && n < (2 ^ bits : Int)

/-- What a plain scalar is written like. -/
def meaning (s : List Char) : Meaning :=
  if isNull s then .nothing
  else
    match truth? s with
    | some b => .truth b
    | none =>
      match (integer? s).filter (fitsBits 128) with
      | some n => if fitsBits 64 n then .whole n else .oversized
      | none => if isFraction s then .fraction else .text

/-- The node of a plain scalar as what it is written like.  No part wants a number that
is not whole, so any such number stands for them all. -/
def resolvePlain (s : String) : Node :=
  match meaning s.toList with
  | .nothing => .null
  | .truth b => .bool b
  | .whole n => .ofInt n
  | .oversized => .number "0.5"
  | .fraction => .number "0.5"
  | .text => .text s

mutual

/-- A node with its plain scalars replaced by what they are written like, and its
sequences by lists. -/
def resolve : Node → Node
  | .plain s => resolvePlain s
  | .list ns => .list (resolveItems ns)
  | .sequence ns => .list (resolveItems ns)
  | .fields ps => .fields (resolvePairs ps)
  | n => n

/-- `resolve` on every node. -/
def resolveItems : List Node → List Node
  | [] => []
  | n :: ns => resolve n :: resolveItems ns

/-- `resolve` on every value; a key stays as it is written. -/
def resolvePairs : List (Node × Node) → List (Node × Node)
  | [] => []
  | (k, n) :: ps => (k, resolve n) :: resolvePairs ps

end

end SplitTest.Yaml

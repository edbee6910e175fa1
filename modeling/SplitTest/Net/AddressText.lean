import SplitTest.Net.Address
import SplitTest.Text.Pieces
import SplitTest.Text.Numeral

/-!
# Reading and writing addresses

**Version 4** is four decimal groups of one to three digits joined by dots; a
group of several digits does not start with zero.

**Version 6** is eight groups of one to four hexadecimal digits joined by
colons, the last two of which may be written as a version 4 address.  One double
colon stands for at least one zero group.

`Address.text` writes the one canonical form: no leading zeros, lower-case
digits, the first longest run of two or more zero groups as a double colon, and
mapped addresses (`::ffff:0:0/96`) with their last two groups in dotted form.
-/

namespace SplitTest.Net

open SplitTest.Text

/-- A decimal group of a version 4 address. -/
def octet? (s : List Char) : Option Nat :=
  if s.length ≤ 3 ∧ ¬(1 < s.length ∧ s.head? = some '0') then
    (natural? 10 s).filter (· < 256)
  else
    none

/-- The four groups of a written version 4 address. -/
def octets? (s : List Char) : Option (List Nat) :=
  let ps := pieces '.' s
  if ps.length = 4 then ps.mapM octet? else none

/-- A hexadecimal group of a version 6 address. -/
def hextet? (s : List Char) : Option Nat :=
  if s.length ≤ 4 then natural? 16 s else none

/-- The groups of colon-separated pieces, the last of which may be a dotted
version 4 address and then counts for two. -/
def hextets? : List (List Char) → Option (List Nat)
  | [] => some []
  | [p] =>
    match octets? p with
    | some [a, b, c, d] => some [a * 256 + b, c * 256 + d]
    | _ => (hextet? p).map fun g => [g]
  | p :: q :: ps => do
    let g ← hextet? p
    let gs ← hextets? (q :: ps)
    return g :: gs

/-- The groups of one side of a double colon; nothing stands for none. -/
def sideGroups? (s : List Char) : Option (List Nat) :=
  if s.isEmpty then some [] else hextets? (pieces ':' s)

/-- What stands before and after the first double colon. -/
def cutDoubleColon? : List Char → Option (List Char × List Char)
  | [] => none
  | ':' :: ':' :: s => some ([], s)
  | c :: s => (cutDoubleColon? s).map fun (a, b) => (c :: a, b)

/-- The eight groups of a written version 6 address. -/
def groups6? (s : List Char) : Option (List Nat) :=
  match cutDoubleColon? s with
  | none => (hextets? (pieces ':' s)).filter (·.length = 8)
  | some (left, right) => do
    let head ← if left.isEmpty then some [] else (pieces ':' left).mapM hextet?
    let tail ← sideGroups? right
    let total := head.length + tail.length
    if total ≤ 7 then
      return head ++ List.replicate (8 - total) 0 ++ tail
    else
      none

namespace Address

/-- The address written as `s`, in either family. -/
def parse? (s : List Char) : Option Address :=
  match octets? s with
  | some gs => ofGroups? .v4 gs
  | none => (groups6? s).bind (ofGroups? .v6)

end Address

/-! ## The canonical form -/

/-- Groups written in decimal and joined by dots. -/
def dotted (gs : List Nat) : List Char := ['.'].intercalate (gs.map decimal)

/-- Groups written in hexadecimal and joined by colons. -/
def colonized (gs : List Nat) : List Char := [':'].intercalate (gs.map hexadecimal)

/-- Length of the run of zeros at the head of a list. -/
def zeroRun (gs : List Nat) : Nat := (gs.takeWhile (· == 0)).length

/-- Start and length of the first longest run of zeros among `gs`, whose head is
group number `i`, provided it is longer than the `best` one so far. -/
def longestZeroRun : Nat → List Nat → Nat × Nat → Nat × Nat
  | _, [], best => best
  | i, g :: gs, best =>
    longestZeroRun (i + 1) gs (if best.2 < zeroRun (g :: gs) then (i, zeroRun (g :: gs)) else best)

/-- The canonical text of eight groups. -/
def compressed (gs : List Nat) : List Char :=
  let (start, length) := longestZeroRun 0 gs (0, 0)
  if 1 < length then
    colonized (gs.take start) ++ [':', ':'] ++ colonized (gs.drop (start + length))
  else
    colonized gs

namespace Address

/-- The canonical text of an address. -/
def text (a : Address) : List Char :=
  match a.family with
  | .v4 => dotted a.groups
  | .v6 =>
    match a.groups with
    | [0, 0, 0, 0, 0, 0xFFFF, x, y] =>
      "::ffff:".toList ++ dotted [x / 256, x % 256, y / 256, y % 256]
    | gs => compressed gs

end Address

end SplitTest.Net

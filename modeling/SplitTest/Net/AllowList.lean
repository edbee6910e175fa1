import SplitTest.Net.AddressText
import SplitTest.Text.Lines
import SplitTest.Text.Ascii

/-!
# Allow-lists

The addresses on a condition's allow-list are exempt from that condition.  The
text of a list has entries separated by commas and line ends, and a comment runs
from a number sign to the end of its line.  An entry is one of

* an address: `10.1.2.3`, `2001:db8::1`;
* a block: an address and a number of leading bits, `10.0.0.0/8`;
* a range: an address and a bound for its last group, `10.1.2.1-20`, decimal for
  version 4 and hexadecimal for version 6;
* a beginning of the canonical text: `192.168`, `192.168.`, `2001:db8:`.

An entry that is none of these is left out and reported by `unreadable`.
-/

namespace SplitTest.Net

open SplitTest.Text

-- powers are those of the natural numbers themselves, not of a monoid
attribute [local instance (high)] instPowNat

/-- What an entry of an allow-list lets through. -/
inductive Rule where
  /-- One address. -/
  | exact (a : Address)
  /-- The addresses that share their first `bits` bits with `a`. -/
  | block (a : Address) (bits : Nat)
  /-- The addresses that share all groups but the last with `start`, and whose
  last group lies between that of `start` and `last`. -/
  | range (start : Address) (last : Nat)
  /-- The addresses whose canonical text begins so. -/
  | beginning (text : List Char)
deriving DecidableEq, Repr

namespace Rule

/-- The rule `address/bits`. -/
def block? (address bits : List Char) : Option Rule := do
  let a ← Address.parse? (trim address)
  let n ← unsigned? 10 256 (trim bits)
  if n ≤ a.family.width then return block a n else none

/-- The rule `address-last`. -/
def range? (address last : List Char) : Option Rule := do
  let a ← Address.parse? (trim address)
  let n ← match a.family with
    | .v4 => unsigned? 10 256 (trim last)
    | .v6 => unsigned? 16 65536 (trim last)
  return range a n

/-- The rule for the beginning of a text: digits and dots, completed by a dot, or
hexadecimal digits and colons up to a colon. -/
def beginning? (entry : List Char) : Option Rule :=
  if entry.all fun c => isDigit c || c == '.' then
    some (beginning (if entry.getLast? = some '.' then entry else entry ++ ['.']))
  else if entry.getLast? = some ':' && entry.all (fun c => isHexDigit c || c == ':') then
    some (beginning (entry.map foldAscii))
  else
    none

/-- The rule an entry stands for.  An entry with a slash is a block or nothing,
and one with a dash a range or nothing. -/
def parse? (entry : List Char) : Option Rule :=
  match Address.parse? entry with
  | some a => some (exact a)
  | none =>
    match cut? '/' entry with
    | some (address, bits) => block? address bits
    | none =>
      match cut? '-' entry with
      | some (address, last) => range? address last
      | none => beginning? entry

/-- Whether the rule lets `x` through. -/
def contains (x : Address) : Rule → Bool
  | exact a => a == x
  | block a bits =>
    a.family == x.family
      && a.value / 2 ^ (a.family.width - bits) == x.value / 2 ^ (a.family.width - bits)
  | range start last =>
    start.family == x.family && start.leadingGroups == x.leadingGroups
      && start.lastGroup ≤ x.lastGroup && x.lastGroup ≤ last
  | beginning text => text.isPrefixOf x.text

end Rule

/-- An allow-list: the text it was written as and the rules it stands for. -/
structure AllowList where
  /-- The text as written. -/
  source : String
  /-- The rules of the entries that could be read, in order. -/
  rules : List Rule
deriving DecidableEq, Repr

namespace AllowList

/-- The entries of a text: the non-blank pieces between commas of each line up to
its comment. -/
def entries (source : List Char) : List (List Char) :=
  (lines source).flatMap fun line => nonblank (pieces ',' (before '#' line))

/-- The list a text stands for. -/
def parse (source : String) : AllowList where
  source := source
  rules := (entries source.toList).filterMap Rule.parse?

/-- The entries of a text that are no rule, in order. -/
def unreadable (source : String) : List String :=
  ((entries source.toList).filter fun e => (Rule.parse? e).isNone).map String.ofList

/-- The list without entries. -/
def empty : AllowList := ⟨"", []⟩

instance : Inhabited AllowList := ⟨empty⟩

/-- Whether no entry could be read. -/
def isEmpty (l : AllowList) : Bool := l.rules.isEmpty

/-- Whether the address is on the list. -/
def contains (l : AllowList) (x : Address) : Bool := l.rules.any (·.contains x)

/-- Whether a client is on the list.  A client whose address is missing or cannot
be read counts as listed, so it is exempt everywhere. -/
def containsClient (l : AllowList) (address : Option String) : Bool :=
  match address.bind fun s => Address.parse? (trim s.toList) with
  | some x => l.contains x
  | none => true

end AllowList

end SplitTest.Net

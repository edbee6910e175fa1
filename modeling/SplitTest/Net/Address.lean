/-!
# Internet addresses

An address is a family together with a number below `2 ^ width`.  Its groups are
the digits of that number in base `2 ^ groupWidth`, most significant first: four
octets for version 4, eight 16-bit groups for version 6.  An address of one
family never equals an address of the other, mapped addresses included.
-/

namespace SplitTest.Net

-- powers are those of the natural numbers themselves, not of a monoid
attribute [local instance (high)] instPowNat

/-- The two address families. -/
inductive Family where
  | v4
  | v6
deriving DecidableEq, Repr

namespace Family

/-- Number of bits of an address. -/
def width : Family → Nat
  | v4 => 32
  | v6 => 128

/-- Number of bits of a written group. -/
def groupWidth : Family → Nat
  | v4 => 8
  | v6 => 16

/-- Number of groups of an address. -/
def groupCount : Family → Nat
  | v4 => 4
  | v6 => 8

/-- Number of values of a group. -/
def groupSize (f : Family) : Nat := 2 ^ f.groupWidth

end Family

/-- An address: a family and a number of as many bits. -/
structure Address where
  /-- The family. -/
  family : Family
  /-- The address as a number, most significant group first. -/
  value : Nat
  /-- The number fits the family. -/
  fits : value < 2 ^ family.width
deriving DecidableEq, Repr

/-- The number whose digits in base `size` are `groups`, most significant first. -/
def valueOfGroups (size : Nat) (groups : List Nat) : Nat :=
  groups.foldl (fun acc g => acc * size + g) 0

namespace Address

/-- The address with these groups, if the number they make fits the family. -/
def ofGroups? (f : Family) (groups : List Nat) : Option Address :=
  let v := valueOfGroups f.groupSize groups
  if h : v < 2 ^ f.width then some ⟨f, v, h⟩ else none

/-- The group at place `i`, counted from the most significant one. -/
def group (a : Address) (i : Nat) : Nat :=
  a.value / a.family.groupSize ^ (a.family.groupCount - 1 - i) % a.family.groupSize

/-- The groups, most significant first. -/
def groups (a : Address) : List Nat := (List.range a.family.groupCount).map a.group

/-- The least significant group. -/
def lastGroup (a : Address) : Nat := a.value % a.family.groupSize

/-- All groups but the last, as one number. -/
def leadingGroups (a : Address) : Nat := a.value / a.family.groupSize

end Address

end SplitTest.Net

/-!
# Draws

Draws come from an endless sequence of numbers, of which so many have been used.
-/

namespace SplitTest

/-- A sequence of numbers and how many of them have been drawn. -/
structure Draws where
  /-- The numbers by place. -/
  values : Nat → Nat
  /-- How many have been drawn. -/
  rolls : Nat

namespace Draws

/-- The next number. -/
def next (d : Draws) : Nat := d.values d.rolls

/-- The sequence with its next number drawn. -/
def advance (d : Draws) : Draws := { d with rolls := d.rolls + 1 }

/-- The sequence that always gives `n`. -/
def constant (n : Nat) : Draws := ⟨fun _ => n, 0⟩

/-- The sequence that gives the numbers of a list and then repeats the last; 100
for the empty list. -/
def ofList (ns : List Nat) : Draws where
  values k := match ns[k]? with
    | some n => n
    | none => ns.getLast?.getD 100
  rolls := 0

/-- The next `n` numbers. -/
def take (d : Draws) (n : Nat) : List Nat := (List.range n).map fun i => d.values (d.rolls + i)

@[simp] theorem length_take (d : Draws) (n : Nat) : (d.take n).length = n := by simp [take]

theorem take_succ (d : Draws) (n : Nat) : d.take (n + 1) = d.next :: d.advance.take n := by
  simp only [take, next, advance, List.range_succ_eq_map, List.map_cons, List.map_map]
  congr 1
  exact List.map_congr_left fun i _ => by simp [Nat.add_comm, Nat.add_left_comm]

end Draws

end SplitTest

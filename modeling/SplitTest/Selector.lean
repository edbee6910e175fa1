import SplitTest.Device.Fingerprint

/-!
# Weighted selection

Items lie end to end on a line, each as long as its weight.  A draw `n` falls on
the item that covers `(start, stop]`, a device bucket `n` on the item that covers
`[start, stop)`; past the end nothing is selected.
-/

namespace SplitTest

/-- A point on the line of items. -/
inductive Selector where
  /-- A draw, from 1 on. -/
  | uniform (draw : Nat)
  /-- A device bucket, from 0 on. -/
  | stable (bucket : Nat)
deriving DecidableEq, Repr

namespace Selector

/-- The selector of a device under an offset. -/
def ofDevice (f : Device.Fingerprint) (offset : Nat) : Selector := stable (f.bucket offset)

/-- The number of the point. -/
def point : Selector → Nat
  | uniform n => n
  | stable n => n

/-- Whether the point falls on the item between `start` and `stop`. -/
def hits (s : Selector) (start stop : Nat) : Bool :=
  match s with
  | uniform n => start < n && n ≤ stop
  | stable n => start ≤ n && n < stop

/-- The first item that the point falls on, the items starting at `start`. -/
def selectFrom {α : Type} (s : Selector) (weight : α → Nat) : Nat → List α → Option α
  | _, [] => none
  | start, x :: xs =>
    if s.hits start (start + weight x) then some x else selectFrom s weight (start + weight x) xs

/-- The item that the point falls on. -/
def select {α : Type} (s : Selector) (weight : α → Nat) (items : List α) : Option α :=
  s.selectFrom weight 0 items

end Selector

end SplitTest

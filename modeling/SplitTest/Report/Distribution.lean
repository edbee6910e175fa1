import SplitTest.Dataset
import SplitTest.Draws
import SplitTest.Report.Percent
import SplitTest.Selector

/-!
# Simulated distributions

A simulation draws for one enabled experiment outside the device scope after the
other, all from one sequence, and counts how often each condition wins, whoever is
eligible.
-/

namespace SplitTest.Report

open SplitTest.Text

/-- How draws were distributed over the conditions of an experiment. -/
structure Distribution where
  /-- Shortname of the experiment. -/
  experiment : String
  /-- Its scope. -/
  scope : Scope
  /-- The number of draws that each condition won, in stored order. -/
  counts : Dictionary Nat
  /-- The number of draws that nothing won. -/
  none : Nat
  /-- The number of draws. -/
  draws : Nat

namespace Distribution

/-- A line of the table. -/
def row (label : String) (n whole : Nat) : String :=
  "  " ++ padRight 20 label ++ " " ++ padLeft 8 (ofNat n) ++ " " ++ padLeft 6 (percent n whole)
    ++ "%\n"

/-- The table of a distribution. -/
def display (d : Distribution) : String :=
  d.experiment ++ " (" ++ d.scope.name ++ ")\n"
    ++ String.join (d.counts.items.map fun c => row c.1 c.2 d.draws)
    ++ row "(none)" d.none d.draws

/-- The condset that a draw falls on, with no regard to eligibility. -/
def winner? (e : Entry) (n : Nat) : Option String :=
  ((Selector.uniform n).select Condition.weight e.conditions.items).map Condition.condset

/-- The distribution of an experiment before any draw is counted. -/
def start (e : Entry) (draws : Nat) : Distribution where
  experiment := e.shortname
  scope := e.scope
  counts := .ofList (e.conditions.items.map fun c => (c.condset, 0))
  none := 0
  draws := draws

/-- The distribution with one more draw counted: for the condset that won it, or for nothing. -/
def tally (dist : Distribution) : Option String → Distribution
  | .some condset =>
    { dist with counts := dist.counts.set condset ((dist.counts.get? condset).getD 0 + 1) }
  | .none => { dist with none := dist.none + 1 }

/-- Draw so often for an experiment and count every draw as it is made: the distribution, and
the draws that are left. -/
def roll (e : Entry) : Nat → Distribution → Draws → Distribution × Draws
  | 0, dist, d => (dist, d)
  | n + 1, dist, d => roll e n (dist.tally (winner? e d.next)) d.advance

end Distribution

/-- The distributions of entries in order, each of which goes on with the draws that the one
before it left. -/
def distributions (count : Nat) : List Entry → Draws → List Distribution
  | [], _ => []
  | e :: es, d =>
    let (dist, left) := Distribution.roll e count (.start e count) d
    dist :: distributions count es left

/-- The distributions of the experiments of a dataset that draw. -/
def simulate (set : Dataset) (count : Nat) (d : Draws) : List Distribution :=
  distributions count (set.active.filter fun e => e.scope != .device) d

end SplitTest.Report

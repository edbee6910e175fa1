import SplitTest.Event

/-!
# Reports of hooks

The answer of an evaluation hook: which conditions fired, in order, and the tally
of their commands.
-/

namespace SplitTest

/-- A condition that was chosen and ran. -/
structure Firing where
  /-- Shortname of the experiment. -/
  experiment : String
  /-- Name of the condition. -/
  condset : String
  /-- How it was chosen. -/
  selection : Selection
deriving DecidableEq, Repr

/-- The answer of an evaluation hook. -/
structure Report where
  /-- Whether the request switched experiments off. -/
  disabled : Bool
  /-- The conditions that fired, in order. -/
  firings : List Firing
  /-- The tally of their commands. -/
  execution : ExecutionReport
deriving DecidableEq, Repr, Inhabited

namespace Report

/-- The report of a hook in which nothing happened. -/
def empty : Report := ⟨false, [], .empty⟩

/-- The report of a request that switched experiments off. -/
def switchedOff : Report := ⟨true, [], .empty⟩

/-- The condset that fired first for an experiment. -/
def fired? (r : Report) (shortname : String) : Option String :=
  (r.firings.find? fun f => f.experiment == shortname).map Firing.condset

/-- The report of conditions that ran, each with its tally. -/
def ofRuns (runs : List (Firing × ExecutionReport)) : Report where
  disabled := false
  firings := runs.map Prod.fst
  execution := runs.foldl (fun acc run => acc.merge run.2) .empty

end Report

end SplitTest

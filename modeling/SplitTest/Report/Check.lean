import SplitTest.Dataset

/-!
# Malformed lines

The command lines of a dataset that would be skipped as malformed, in stored
order, of enabled and other experiments alike.
-/

namespace SplitTest.Report

/-- A command line that would be skipped. -/
structure Problem where
  /-- Shortname of the experiment. -/
  experiment : String
  /-- The condset that holds the line. -/
  condset : String
  /-- The line as stored. -/
  line : String
  /-- What is wrong with it. -/
  fault : MalformedCommand
deriving DecidableEq, Repr

/-- The problem as a line. -/
def Problem.display (p : Problem) : String :=
  p.experiment ++ "/" ++ p.condset ++ ": `" ++ p.line ++ "`: " ++ p.fault.message

/-- The problems of a condition of an experiment. -/
def conditionProblems (experiment : String) (c : Condition) : List Problem :=
  c.commands.parsed.filterMap fun p =>
    match p.2 with
    | .ok _ => none
    | .error fault => some ⟨experiment, c.condset, p.1, fault⟩

/-- The problems of a dataset. -/
def check (set : Dataset) : List Problem :=
  set.items.flatMap fun e => e.conditions.items.flatMap (conditionProblems e.shortname)

end SplitTest.Report

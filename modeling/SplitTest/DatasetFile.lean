import SplitTest.Dataset

/-!
# Dataset files

A dataset file lists experiments with their conditions in order.  It becomes a
dataset if its shortnames are admitted and distinct, its offsets are at most 99,
and the condsets of each experiment are distinct.  Numbers are given in the order
of the file, and those of conditions run on from one experiment to the next.
-/

namespace SplitTest

open SplitTest.Text

/-- A condition as a file lists it. -/
structure ConditionSpec where
  /-- Name that identifies it within its experiment. -/
  condset : String
  /-- Its share of a hundred. -/
  weight : Nat
  /-- Allow-list as text. -/
  allowList : String
  /-- Command lines in order. -/
  commands : List String
  /-- The users it is restricted to. -/
  users : UserSet
deriving DecidableEq, Repr

/-- An experiment as a file lists it. -/
structure ExperimentSpec where
  /-- Name for people; the shortname if there is none. -/
  name : Option String
  /-- Name that identifies it. -/
  shortname : String
  /-- What a choice holds over. -/
  scope : Scope
  /-- Whether it takes place. -/
  enabled : Bool
  /-- Whether it is open to administrators. -/
  adminEnabled : Bool
  /-- Offset of its device buckets. -/
  numericOffset : Nat
  /-- Its conditions in order. -/
  conditions : List ConditionSpec
deriving DecidableEq, Repr

/-- The experiments of a file in order. -/
structure DatasetFile where
  /-- The experiments. -/
  experiments : List ExperimentSpec
deriving DecidableEq, Repr

/-- Why a file is no dataset. -/
inductive DatasetFault where
  /-- A shortname that is not admitted. -/
  | shortname (s : String)
  /-- A shortname that an earlier experiment has. -/
  | duplicateShortname (s : String)
  /-- An offset above 99. -/
  | offset (shortname : String) (n : Nat)
  /-- A condset that an earlier condition of the experiment has. -/
  | duplicateCondset (shortname condset : String)
deriving DecidableEq, Repr

/-- The text of the fault. -/
def DatasetFault.message : DatasetFault → String
  | shortname s => (FieldFault.shortname s).message
  | duplicateShortname s => "duplicate experiment shortname `" ++ s ++ "`"
  | offset s n => s ++ ": numeric_offset " ++ ofNat n ++ " is not in 0..=99"
  | duplicateCondset s c => s ++ ": duplicate condset `" ++ c ++ "`"

namespace ConditionSpec

/-- The condition with a number that a specification of an experiment becomes. -/
def toCondition (c : ConditionSpec) (experiment : ExperimentId) (id : Nat) : Condition where
  id := ⟨id⟩
  experimentId := experiment
  condset := c.condset
  allowList := .parse c.allowList
  commands := ⟨c.commands⟩
  weight := c.weight
  users := c.users

end ConditionSpec

namespace ExperimentSpec

/-- The experiment with a number that a specification becomes. -/
def toExperiment (e : ExperimentSpec) (id : Nat) : Experiment where
  id := ⟨id⟩
  name := e.name.getD e.shortname
  shortname := e.shortname
  scope := e.scope
  enabled := e.enabled
  adminEnabled := e.adminEnabled
  numericOffset := e.numericOffset

/-- The conditions of a specification, numbered from `next` on, unless a condset is
among `seen` or repeated. -/
def buildConditions (e : ExperimentSpec) (id : Nat) :
    List String → Nat → List ConditionSpec → Except DatasetFault (List Condition)
  | _, _, [] => .ok []
  | seen, next, c :: cs =>
    if seen.contains c.condset then
      .error (.duplicateCondset e.shortname c.condset)
    else
      match buildConditions e id (c.condset :: seen) (next + 1) cs with
      | .error fault => .error fault
      | .ok built => .ok (c.toCondition ⟨id⟩ next :: built)

/-- The entry of a specification with a number, its conditions numbered from `next`
on; its shortname must not be among `seen`. -/
def build (e : ExperimentSpec) (seen : List String) (id next : Nat) : Except DatasetFault Entry :=
  if !isShortname e.shortname then .error (.shortname e.shortname)
  else if seen.contains e.shortname then .error (.duplicateShortname e.shortname)
  else if 99 < e.numericOffset then .error (.offset e.shortname e.numericOffset)
  else
    match e.buildConditions id [] next e.conditions with
    | .error fault => .error fault
    | .ok conditions => .ok (.ofList (e.toExperiment id) conditions)

end ExperimentSpec

namespace DatasetFile

/-- The entries of specifications, numbered from `id` on and their conditions from
`next` on. -/
def buildEntries :
    List String → Nat → Nat → List ExperimentSpec → Except DatasetFault (List Entry)
  | _, _, _, [] => .ok []
  | seen, id, next, e :: es =>
    match e.build seen id next with
    | .error fault => .error fault
    | .ok entry =>
      match buildEntries (e.shortname :: seen) (id + 1) (next + e.conditions.length) es with
      | .error fault => .error fault
      | .ok entries => .ok (entry :: entries)

/-- The dataset of a file, or the first fault in the order of the file. -/
def toDataset (f : DatasetFile) : Except DatasetFault Dataset :=
  match buildEntries [] 1 1 f.experiments with
  | .error fault => .error fault
  | .ok entries => .ok (.ofList entries)

end DatasetFile

end SplitTest

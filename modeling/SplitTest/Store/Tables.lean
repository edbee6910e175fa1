import SplitTest.SortedMap
import SplitTest.Store.Record
import SplitTest.Store.Error

/-!
# Tables

The store is two tables, each of rows under numbers and in the order of these, and the last
number that each of them gave out.  Shortnames are distinct among experiments, and condsets
among the conditions of one experiment; the tables know no other rule, so a condition may
belong to an experiment that is not there.

An experiment or a condition has a number of its own besides the one under which its row
stands.  That the two are the same is not a rule of the tables either, but a consequence of
how rows are written.
-/

namespace SplitTest.Store

/-- The tables of the store. -/
structure Tables where
  /-- The experiments, each under a number. -/
  experimentTable : SortedMap Experiment
  /-- The conditions, each under a number. -/
  conditionTable : SortedMap ConditionRecord
  /-- The last number given to an experiment. -/
  lastExperiment : Nat
  /-- The last number given to a condition. -/
  lastCondition : Nat
deriving DecidableEq, Repr

namespace Tables

/-- The tables of a new store. -/
def empty : Tables := ⟨.empty, .empty, 0, 0⟩

instance : Inhabited Tables := ⟨empty⟩

/-- The experiments in the order of their numbers. -/
def experiments (t : Tables) : List Experiment := t.experimentTable.values

/-- The conditions in the order of their numbers. -/
def conditions (t : Tables) : List ConditionRecord := t.conditionTable.values

/-! ## Experiments -/

/-- The experiment with a number. -/
def experiment? (t : Tables) (id : ExperimentId) : Option Experiment :=
  t.experimentTable.get? id.value

/-- The experiment with a shortname. -/
def experimentNamed? (t : Tables) (shortname : String) : Option Experiment :=
  t.experiments.find? fun e => e.shortname == shortname

/-- Add an experiment under the next number. -/
def insertExperiment (t : Tables) (d : ExperimentDraft) :
    Except StoreError (ExperimentId × Tables) :=
  if t.experiments.any fun e => e.shortname == d.shortname then
    .error (.alreadyExists .experiment d.shortname)
  else
    let id : ExperimentId := ⟨(t.lastExperiment + 1 : Nat)⟩
    .ok (id, { t with
      experimentTable := t.experimentTable.insert id.value (d.withId id)
      lastExperiment := t.lastExperiment + 1 })

/-- Replace the experiment under the number of `x`. -/
def updateExperiment (t : Tables) (x : Experiment) : Except StoreError Tables :=
  if t.experiments.any fun e => e.id != x.id && e.shortname == x.shortname then
    .error (.alreadyExists .experiment x.shortname)
  else if t.experimentTable.contains x.id.value then
    .ok { t with experimentTable := t.experimentTable.insert x.id.value x }
  else
    .error (.notFound .experiment (Text.ofInt x.id.value))

/-- Remove the experiment under a number, and none of its conditions. -/
def deleteExperiment (t : Tables) (id : ExperimentId) : Except StoreError Tables :=
  if t.experimentTable.contains id.value then
    .ok { t with experimentTable := t.experimentTable.erase id.value }
  else
    .error (.notFound .experiment (Text.ofInt id.value))

/-! ## Conditions -/

/-- The conditions of an experiment. -/
def conditionsOf (t : Tables) (id : ExperimentId) : List ConditionRecord :=
  t.conditions.filter fun c => c.experimentId == id

/-- The condition of an experiment with a condset. -/
def conditionNamed? (t : Tables) (id : ExperimentId) (condset : String) : Option ConditionRecord :=
  t.conditions.find? fun c => c.experimentId == id && c.fields.condset == condset

/-- Add a condition to an experiment under the next number. -/
def insertCondition (t : Tables) (id : ExperimentId) (fields : ConditionFields) :
    Except StoreError (ConditionId × Tables) :=
  if t.conditions.any fun c => c.experimentId == id && c.fields.condset == fields.condset then
    .error (.alreadyExists .condition fields.condset)
  else
    let new : ConditionId := ⟨(t.lastCondition + 1 : Nat)⟩
    .ok (new, { t with
      conditionTable := t.conditionTable.insert new.value ⟨new, id, fields⟩
      lastCondition := t.lastCondition + 1 })

/-- Replace the condition under the number of `x`. -/
def updateCondition (t : Tables) (x : ConditionRecord) : Except StoreError Tables :=
  if t.conditions.any fun c =>
      c.id != x.id && c.experimentId == x.experimentId && c.fields.condset == x.fields.condset then
    .error (.alreadyExists .condition x.fields.condset)
  else if t.conditionTable.contains x.id.value then
    .ok { t with conditionTable := t.conditionTable.insert x.id.value x }
  else
    .error (.notFound .condition (Text.ofInt x.id.value))

/-- Remove the condition under a number. -/
def deleteCondition (t : Tables) (id : ConditionId) : Except StoreError Tables :=
  if t.conditionTable.contains id.value then
    .ok { t with conditionTable := t.conditionTable.erase id.value }
  else
    .error (.notFound .condition (Text.ofInt id.value))

/-- Remove the conditions of an experiment, and tell how many there were. -/
def deleteConditions (t : Tables) (id : ExperimentId) : Nat × Tables :=
  ((t.conditionsOf id).length,
    { t with conditionTable := t.conditionTable.filter fun c => c.experimentId != id })

end Tables

end SplitTest.Store

import SplitTest.Store.Tables
import SplitTest.Store.Cache
import SplitTest.Dataset
import SplitTest.Event

/-!
# The experiment manager

The manager checks what operators ask of the store, writes the audit log, and
keeps the dataset that hooks read in a cache.  Every operation that may write
invalidates the cache, whether or not it succeeds.

An operation is an `Action`: it answers a value or a store error, and in either
case leaves a manager.  What an operation wrote before it failed stays written.
Single calls of the store can be out of order (`outages`), and then fail without
an effect.
-/

namespace SplitTest.Store

/-- The calls of the store. -/
inductive StoreCall where
  | experiment
  | experimentByShortname
  | experiments
  | insertExperiment
  | updateExperiment
  | deleteExperiment
  | conditions
  | conditionByCondset
  | insertCondition
  | updateCondition
  | deleteCondition
  | deleteConditions
deriving DecidableEq, Repr

namespace StoreCall

/-- Every call. -/
def all : List StoreCall :=
  [experiment, experimentByShortname, experiments, insertExperiment, updateExperiment,
    deleteExperiment, conditions, conditionByCondset, insertCondition, updateCondition,
    deleteCondition, deleteConditions]

/-- The name of the call. -/
def name : StoreCall → String
  | experiment => "experiment"
  | experimentByShortname => "experiment_by_shortname"
  | experiments => "experiments"
  | insertExperiment => "insert_experiment"
  | updateExperiment => "update_experiment"
  | deleteExperiment => "delete_experiment"
  | conditions => "conditions"
  | conditionByCondset => "condition_by_condset"
  | insertCondition => "insert_condition"
  | updateCondition => "update_condition"
  | deleteCondition => "delete_condition"
  | deleteConditions => "delete_conditions"

/-- The call with a name. -/
def ofName? (s : String) : Option StoreCall := all.find? fun c => c.name == s

/-- The error of a call that is out of order. -/
def outage (c : StoreCall) : StoreError := .backend (c.name ++ " down")

end StoreCall

/-- Where audit entries go. -/
inductive AuditSink where
  /-- To the audit log. -/
  | log
  /-- To the events. -/
  | events
deriving DecidableEq, Repr

/-- The manager of a store. -/
structure Manager where
  /-- The tables of the store. -/
  tables : Tables
  /-- The calls of the store that are out of order. -/
  outages : List StoreCall
  /-- Whether someone else invalidates the cache when the experiments are next read. -/
  overlap : Bool
  /-- The cached dataset. -/
  cache : Cache Dataset
  /-- How many seconds a cached dataset lasts; none for unlimited. -/
  lifetime : Option Nat
  /-- Where audit entries go. -/
  sink : AuditSink
  /-- The audit log, in order. -/
  audit : List AuditEntry
  /-- What was reported, in order. -/
  events : List Event

/-- An operation on a manager. -/
abbrev Action (α : Type) := ExceptT StoreError (StateM Manager) α

namespace Manager

/-- The manager of a new store. -/
def empty : Manager := ⟨.empty, [], false, .empty, none, .log, [], []⟩

instance : Inhabited Manager := ⟨empty⟩

/-- The most seconds that a cached dataset may be made to last: a thousand years. -/
def longestLifetime : Nat := 1000 * 365 * 24 * 3600

/-- The manager of a new store whose cached dataset lasts so many seconds; refused if
that is too long. -/
def lasting? (seconds : Option Nat) : Option Manager :=
  if seconds.all (· ≤ longestLifetime) then some { empty with lifetime := seconds } else none

/-- Report an event. -/
def report (m : Manager) (e : Event) : Manager := { m with events := m.events ++ [e] }

/-- Record an audit entry. -/
def record (m : Manager) (a : AuditEntry) : Manager :=
  match m.sink with
  | .log => { m with audit := m.audit ++ [a] }
  | .events => m.report (.configChange a)

/-- Forget the cached dataset. -/
def invalidate (m : Manager) : Manager := { m with cache := m.cache.invalidate }

/-- Keep a dataset that was loaded; one that lasts no time is gone at once. -/
def keep (m : Manager) (cache : Cache Dataset) : Manager :=
  { m with cache := if m.lifetime = some 0 then { cache with entry := none } else cache }

end Manager

namespace Action
variable {α : Type}

/-- Run an operation. -/
def runOn (act : Action α) (m : Manager) : Except StoreError α × Manager := act.run.run m

/-- Fail. -/
def fail (e : StoreError) : Action α := throw e

/-- Answer a value, or fail with the fault of a field. -/
def check (r : Except FieldFault α) : Action α :=
  match r with
  | .ok a => pure a
  | .error fault => fail (.invalid fault)

/-- Answer a value that must be there. -/
def required (e : StoreError) : Option α → Action α
  | some a => pure a
  | none => fail e

/-- Change the manager. -/
def alter (f : Manager → Manager) : Action Unit := modify f

/-- Call the store: read the tables and leave new ones, unless the call is out of
order. -/
def serve (c : StoreCall) (f : Tables → Except StoreError (α × Tables)) : Action α := do
  let m ← get
  if m.outages.contains c then
    fail c.outage
  else
    match f m.tables with
    | .ok (a, tables) => do
      alter fun m => { m with tables := tables }
      pure a
    | .error e => fail e

/-- Call the store for what it knows. -/
def ask (c : StoreCall) (f : Tables → α) : Action α := serve c fun t => .ok (f t, t)

/-- Call the store to change it. -/
def tell (c : StoreCall) (f : Tables → Except StoreError Tables) : Action Unit :=
  serve c fun t => (f t).map fun t' => ((), t')

/-- Run an operation that may write, and forget the cached dataset after it. -/
def mutating (act : Action α) : Action α :=
  ExceptT.mk fun m =>
    let (r, m') := act.runOn m
    (r, m'.invalidate)

/-! ## Calls of the store -/

/-- The experiment with a number. -/
def experiment? (id : ExperimentId) : Action (Option Experiment) :=
  ask .experiment fun t => t.experiment? id

/-- The experiment with a shortname. -/
def experimentNamed? (shortname : String) : Action (Option Experiment) :=
  ask .experimentByShortname fun t => t.experimentNamed? shortname

/-- Let whoever overlaps the reading of the experiments invalidate the cache. -/
def interfere : Action Unit :=
  alter fun m => if m.overlap then { m.invalidate with overlap := false } else m

/-- Every experiment. -/
def experiments : Action (List Experiment) := do
  let found ← ask .experiments Tables.experiments
  interfere
  return found

/-- Add an experiment. -/
def insertExperiment (d : ExperimentDraft) : Action ExperimentId :=
  serve .insertExperiment fun t => t.insertExperiment d

/-- Replace an experiment. -/
def replaceExperiment (x : Experiment) : Action Unit :=
  tell .updateExperiment fun t => t.updateExperiment x

/-- Remove an experiment. -/
def removeExperiment (id : ExperimentId) : Action Unit :=
  tell .deleteExperiment fun t => t.deleteExperiment id

/-- The conditions of an experiment. -/
def conditionsOf (id : ExperimentId) : Action (List ConditionRecord) :=
  ask .conditions fun t => t.conditionsOf id

/-- The condition of an experiment with a condset. -/
def conditionNamed? (id : ExperimentId) (condset : String) : Action (Option ConditionRecord) :=
  ask .conditionByCondset fun t => t.conditionNamed? id condset

/-- Add a condition. -/
def insertCondition (id : ExperimentId) (fields : ConditionFields) : Action ConditionId :=
  serve .insertCondition fun t => t.insertCondition id fields

/-- Replace a condition. -/
def replaceCondition (x : ConditionRecord) : Action Unit :=
  tell .updateCondition fun t => t.updateCondition x

/-- Remove a condition. -/
def removeCondition (id : ConditionId) : Action Unit :=
  tell .deleteCondition fun t => t.deleteCondition id

/-- Remove the conditions of an experiment, and tell how many there were. -/
def removeConditions (id : ExperimentId) : Action Nat :=
  serve .deleteConditions fun t => .ok (t.deleteConditions id)

end Action

/-! ## Operations -/

/-- What an operator gives for an experiment. -/
structure ExperimentUpdate where
  /-- Name for people. -/
  name : String
  /-- Name that identifies it. -/
  shortname : String
  /-- What a choice holds over. -/
  scope : Scope
  /-- Whether it takes place. -/
  enabled : Bool
  /-- Whether it is open to administrators. -/
  adminEnabled : Bool
  /-- Offset of its device buckets, as given. -/
  numericOffset : Int
deriving DecidableEq, Repr

/-- What an operator gives for a condition. -/
structure ConditionInput where
  /-- Name that identifies it within its experiment. -/
  condset : String
  /-- Allow-list as text. -/
  allowList : String
  /-- Command lines as text. -/
  commands : String
  /-- Its share of a hundred. -/
  weight : Nat
  /-- The users it is restricted to. -/
  users : List Int
deriving DecidableEq, Repr

namespace ConditionInput

/-- The commands of the input. -/
def commandList (input : ConditionInput) : CommandList := .ofAuthoringText input.commands

/-- The columns that are stored for the input. -/
def fields (input : ConditionInput) : ConditionFields where
  condset := input.condset
  allowList := input.allowList
  commands := input.commandList.stored
  weight := input.weight
  users := .ofList input.users

end ConditionInput

namespace Action

/-- Whether a shortname is taken. -/
def experimentExists (shortname : String) : Action Bool :=
  return (← experimentNamed? shortname).isSome

/-- Add an experiment that does not take place yet, with an offset. -/
def addExperiment (name shortname : String) (scope : Scope) (offset : Nat) : Action ExperimentId :=
  mutating do
    check (checkShortname shortname)
    if ← experimentExists shortname then
      fail (.alreadyExists .experiment shortname)
    let id ← insertExperiment ⟨name, shortname, scope, false, false, offset⟩
    alter (·.report (.experimentAdded shortname id scope))
    return id

/-- Replace everything but the number of the experiment with a shortname. -/
def updateExperiment (previous : String) (u : ExperimentUpdate) : Action Unit :=
  mutating do
    let current ← required (.notFound .experiment previous) (← experimentNamed? previous)
    check (checkShortname u.shortname)
    let offset ← check (checkOffset u.numericOffset)
    if u.shortname != previous then
      if ← experimentExists u.shortname then
        fail (.alreadyExists .experiment u.shortname)
    replaceExperiment
      ⟨current.id, u.name, u.shortname, u.scope, u.enabled, u.adminEnabled, offset⟩

/-- Remove the experiment with a shortname, and its conditions before it. -/
def deleteExperiment (shortname : String) : Action Unit :=
  mutating do
    let current ← required (.notFound .experiment shortname) (← experimentNamed? shortname)
    let removed ← removeConditions current.id
    removeExperiment current.id
    alter (·.report (.experimentDeleted shortname removed))

/-- The experiment with a number, which must be there. -/
def owner (id : ExperimentId) : Action Experiment := do
  required (.notFound .experiment (Text.ofInt id.value)) (← experiment? id)

/-- Whether an experiment has a condset. -/
def conditionExists (id : ExperimentId) (condset : String) : Action Bool :=
  return (← conditionNamed? id condset).isSome

/-- Record the settings that commands would write. -/
def recordCommands (experiment : String) (weight : Nat) (commands : CommandList) : Action Unit :=
  alter fun m => (AuditEntry.ofCommands experiment weight commands).foldl Manager.record m

/-- Add a condition to an experiment. -/
def addCondition (id : ExperimentId) (input : ConditionInput) : Action ConditionId :=
  mutating do
    let experiment ← owner id
    if ← conditionExists id input.condset then
      fail (.alreadyExists .condition input.condset)
    let new ← insertCondition id input.fields
    recordCommands experiment.shortname input.weight input.commandList
    return new

/-- Replace everything but the number of the condition of an experiment with a condset. -/
def updateCondition (id : ExperimentId) (previous : String) (input : ConditionInput) :
    Action Unit :=
  mutating do
    let experiment ← owner id
    let current ← required (.notFound .condition previous) (← conditionNamed? id previous)
    if input.condset != previous then
      if ← conditionExists id input.condset then
        fail (.alreadyExists .condition input.condset)
    replaceCondition ⟨current.id, id, input.fields⟩
    recordCommands experiment.shortname input.weight input.commandList

/-- Remove the condition of an experiment with a condset. -/
def deleteCondition (id : ExperimentId) (condset : String) : Action Unit :=
  mutating do
    let record ← required (.notFound .condition condset) (← conditionNamed? id condset)
    removeCondition record.id

/-- Remove the conditions of an experiment, which need not be there. -/
def deleteAllConditions (id : ExperimentId) : Action Unit :=
  mutating do
    let _ ← removeConditions id

/-- Report the allow-list entries of records that cannot be read, and decode the
records. -/
def decodeAll (records : List ConditionRecord) : Action (List Condition) := do
  alter fun m =>
    ((ConditionRecord.unreadableEntries records).map Event.unreadableEntry).foldl
      Manager.report m
  check (ConditionRecord.decodeAll records)

/-- The conditions of an experiment in the order of their condsets. -/
def conditionsByName (id : ExperimentId) : Action (List Condition) := do
  let conditions ← decodeAll (← conditionsOf id)
  return conditions.mergeSort fun a b => decide (a.condset ≤ b.condset)

/-! ## The dataset -/

/-- The entries of experiments, read from the store. -/
def loadEntries : List Experiment → Action (List Entry)
  | [] => return []
  | x :: xs => do
    let conditions ← decodeAll (← conditionsOf x.id)
    let entries ← loadEntries xs
    return Entry.ofList x conditions :: entries

/-- The dataset, read from the store. -/
def loadDataset : Action Dataset := do
  return .ofList (← loadEntries (← experiments))

/-- The dataset, from the cache if it is known. -/
def snapshot : Action Dataset :=
  ExceptT.mk fun m =>
    match m.cache.entry with
    | some d => (.ok d, m)
    | none =>
      match loadDataset.runOn m with
      | (.error e, m') => (.error e, m')
      | (.ok d, m') =>
        let (outcome, cache) := m'.cache.settle m.cache.generation d
        let event := match outcome with
          | .overlapped => Event.loadOverlapped
          | _ => Event.cacheRebuilt d.size
        (.ok d, (m'.keep cache).report event)

end Action

namespace Manager

/-- The dataset; one that cannot be read is reported and counts as empty. -/
def dataset (m : Manager) : Dataset × Manager :=
  match Action.snapshot.runOn m with
  | (.ok d, m') => (d, m')
  | (.error e, m') => (.empty, m'.report (.snapshotUnavailable e))

end Manager

end SplitTest.Store

import SplitTest.Condition

/-!
# Stored records

Experiments are stored as they are.  A condition is stored with its allow-list as
text and its commands in their stored form; decoding it can fail on the commands
alone.
-/

namespace SplitTest.Store

/-- An experiment that has no number yet. -/
structure ExperimentDraft where
  /-- Name for people. -/
  name : String
  /-- Name that identifies it. -/
  shortname : String
  /-- What a choice holds over. -/
  scope : Scope
  /-- Whether it takes place. -/
  enabled : Bool
  /-- Whether it is open to administrators. -/
  adminEnabled : Bool
  /-- Offset of its device buckets. -/
  numericOffset : Nat
deriving DecidableEq, Repr

/-- The experiment that a draft becomes under a number. -/
def ExperimentDraft.withId (d : ExperimentDraft) (id : ExperimentId) : Experiment where
  id := id
  name := d.name
  shortname := d.shortname
  scope := d.scope
  enabled := d.enabled
  adminEnabled := d.adminEnabled
  numericOffset := d.numericOffset

/-- The columns of a condition. -/
structure ConditionFields where
  /-- Name that identifies it within its experiment. -/
  condset : String
  /-- Allow-list as text. -/
  allowList : String
  /-- Commands in their stored form. -/
  commands : String
  /-- Its share of a hundred. -/
  weight : Nat
  /-- The users it is restricted to. -/
  users : UserSet
deriving DecidableEq, Repr

/-- A stored condition. -/
structure ConditionRecord where
  /-- Number in the store. -/
  id : ConditionId
  /-- The experiment it belongs to. -/
  experimentId : ExperimentId
  /-- Its columns. -/
  fields : ConditionFields
deriving DecidableEq, Repr

namespace ConditionRecord

/-- The condition that a record stands for. -/
def decode (r : ConditionRecord) : Except FieldFault Condition :=
  match CommandList.ofStored r.fields.commands with
  | .error fault => .error (.commandList fault)
  | .ok commands =>
    .ok
      { id := r.id
        experimentId := r.experimentId
        condset := r.fields.condset
        allowList := .parse r.fields.allowList
        commands := commands
        weight := r.fields.weight
        users := r.fields.users }

/-- The conditions that records stand for, or the first fault. -/
def decodeAll : List ConditionRecord → Except FieldFault (List Condition)
  | [] => .ok []
  | r :: rs =>
    match r.decode with
    | .error fault => .error fault
    | .ok c =>
      match decodeAll rs with
      | .error fault => .error fault
      | .ok cs => .ok (c :: cs)

/-- The allow-list entries that decoding the records meets and cannot read; decoding
stops at the first fault. -/
def unreadableEntries : List ConditionRecord → List String
  | [] => []
  | r :: rs =>
    Net.AllowList.unreadable r.fields.allowList
      ++ (match r.decode with
        | .ok _ => unreadableEntries rs
        | .error _ => [])

end ConditionRecord

end SplitTest.Store

import SplitTest.Experiment

/-!
# Store errors

What a store operation can fail with, as causes, and their texts.
-/

namespace SplitTest.Store

/-- The kinds of record. -/
inductive RecordKind where
  | experiment
  | condition
deriving DecidableEq, Repr

/-- The name of the kind. -/
def RecordKind.name : RecordKind → String
  | experiment => "experiment"
  | condition => "condition"

/-- Why a store operation failed. -/
inductive StoreError where
  /-- The record it is about is missing. -/
  | notFound (kind : RecordKind) (key : String)
  /-- Another record has the name. -/
  | alreadyExists (kind : RecordKind) (key : String)
  /-- A field is not admitted. -/
  | invalid (fault : FieldFault)
  /-- The store is out of order. -/
  | backend (text : String)
deriving DecidableEq, Repr

namespace StoreError

/-- The text of the error. -/
def message : StoreError → String
  | notFound kind key => kind.name ++ " not found: " ++ key
  | alreadyExists kind key => kind.name ++ " already exists: " ++ key
  | invalid fault => "invalid record: " ++ fault.message
  | backend text => "record store failure: " ++ text

/-- Whether a record was missing. -/
def isNotFound : StoreError → Bool
  | notFound .. => true
  | _ => false

/-- Whether a name was taken. -/
def isAlreadyExists : StoreError → Bool
  | alreadyExists .. => true
  | _ => false

/-- The text of the error as a hook reports it. -/
def hookMessage (e : StoreError) : String := "experiment store: " ++ e.message

end StoreError

end SplitTest.Store

import SplitTest.Json.Fault
import SplitTest.Text.Numeral
import SplitTest.Text.Ascii

/-!
# Experiments

An experiment is known by its shortname and has a scope, which says over what a
choice of its conditions holds: one request, one session, one device, or the part
of a request after the site configuration was read.
-/

namespace SplitTest

open SplitTest.Text

/-- Number of an experiment in the store. -/
@[ext] structure ExperimentId where
  /-- The number. -/
  value : Int
deriving DecidableEq, Repr, Inhabited

/-- What a choice of an experiment's conditions holds over. -/
inductive Scope where
  /-- Drawn anew in every request. -/
  | request
  /-- Drawn once in a session and replayed after that. -/
  | session
  /-- Fixed by the address and user agent of the device. -/
  | device
  /-- Drawn early in a request, unless it is overridden. -/
  | afterConfig
deriving DecidableEq, Repr, Inhabited

namespace Scope

/-- The name of the scope. -/
def name : Scope → String
  | request => "request"
  | session => "session"
  | device => "device"
  | afterConfig => "afterconfig"

/-- The scope with a name; `beforesession` is another name of `afterconfig`. -/
def ofName? : String → Option Scope
  | "request" => some request
  | "session" => some session
  | "device" => some device
  | "afterconfig" => some afterConfig
  | "beforesession" => some afterConfig
  | _ => none

/-- The fault of a name that is no scope. -/
def unknownMessage (name : String) : String := "unknown scope '" ++ name ++ "'"

/-- Whether administrators are left out of experiments not opened to them. -/
def adminImmune (s : Scope) : Bool := s != device

/-- Whether conditions can be restricted to listed users. -/
def userTargeting (s : Scope) : Bool := s != device

end Scope

/-- An experiment. -/
structure Experiment where
  /-- Number in the store. -/
  id : ExperimentId
  /-- Name for people. -/
  name : String
  /-- Name that identifies it. -/
  shortname : String
  /-- What a choice holds over. -/
  scope : Scope
  /-- Whether it takes place. -/
  enabled : Bool
  /-- Whether it is open to administrators. -/
  adminEnabled : Bool
  /-- Offset of its device buckets. -/
  numericOffset : Nat
deriving DecidableEq, Repr, Inhabited

/-- What can be wrong with a stored field. -/
inductive FieldFault where
  /-- A shortname that is empty or not alphanumeric. -/
  | shortname (name : String)
  /-- An offset outside 0 to 99. -/
  | offset (n : Int)
  /-- A stored command list that is no array of strings. -/
  | commandList (fault : Json.Fault)
deriving DecidableEq, Repr

/-- Whether a shortname is admitted: not empty, and ASCII letters and digits only. -/
def isShortname (s : String) : Bool := !s.toList.isEmpty && s.toList.all isAlphanumeric

/-- Refuse a shortname that is not admitted. -/
def checkShortname (s : String) : Except FieldFault Unit :=
  if isShortname s then .ok () else .error (.shortname s)

/-- An offset as a natural number, refused outside 0 to 99. -/
def checkOffset (n : Int) : Except FieldFault Nat :=
  if 0 ≤ n ∧ n ≤ 99 then .ok n.toNat else .error (.offset n)

/-- The text of the fault. -/
def FieldFault.message : FieldFault → String
  | shortname s => "invalid shortname '" ++ s ++ "': must be non-empty and alphanumeric"
  | offset n => "numeric offset " ++ ofInt n ++ " out of range 0..=99"
  | commandList fault => "invalid command list: " ++ fault.message

end SplitTest

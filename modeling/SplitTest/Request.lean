import SplitTest.Keyed
import SplitTest.Text.Blank
import SplitTest.Text.Ascii

/-!
# Requests

A request has a requester, a run mode, parameters and an environment.
-/

namespace SplitTest

open SplitTest.Text

/-- Who makes a request. -/
structure Requester where
  /-- Client address as received. -/
  address : Option String
  /-- User agent as received. -/
  userAgent : Option String
  /-- Number of the user, none for a guest. -/
  userId : Option Int
  /-- Whether the user is an administrator. -/
  isAdmin : Bool
deriving DecidableEq, Repr, Inhabited

/-- How a request runs. -/
inductive RunMode where
  /-- For a browser. -/
  | web
  /-- From a shell. -/
  | cli
deriving DecidableEq, Repr, Inhabited

/-- A request. -/
structure Request where
  /-- Who makes it. -/
  requester : Requester
  /-- How it runs. -/
  mode : RunMode
  /-- Parameters by name. -/
  params : Dictionary String
  /-- Environment variables by name. -/
  env : Dictionary String
deriving DecidableEq

instance : Inhabited Request := ⟨⟨default, .web, .empty, .empty⟩⟩

/-- The words that mean no. -/
def falseWords : List String := ["0", "false", "off", "no"]

/-- Whether a value is a word that means no, up to blanks and the case of ASCII letters. -/
def isFalseWord (value : String) : Bool := falseWords.contains (foldedAscii (trimmed value))

namespace Request

/-- The value of a parameter. -/
def param? (r : Request) (name : String) : Option String := r.params.get? name

/-- The value of an environment variable. -/
def envVar? (r : Request) (name : String) : Option String := r.env.get? name

/-- Whether a parameter carries a word that means no. -/
def disabledBy (r : Request) (name : String) : Bool := (r.param? name).any isFalseWord

end Request

end SplitTest

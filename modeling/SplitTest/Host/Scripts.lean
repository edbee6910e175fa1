import SplitTest.Keyed

/-!
# Page scripts

Experiments queue scripts for the header and the footer of a page.  The registry
keeps one body for each key, and the first one queued stays.
-/

namespace SplitTest

/-- Where on a page a script goes. -/
inductive ScriptPosition where
  | header
  | footer
deriving DecidableEq, Repr

namespace ScriptPosition

/-- The name of the position. -/
def name : ScriptPosition → String
  | header => "js_header"
  | footer => "js_footer"

/-- The key of an experiment's script at the position. -/
def key (p : ScriptPosition) (shortname : String) : String := p.name ++ "_" ++ shortname

end ScriptPosition

/-- Queued scripts by key, in the order in which they were queued. -/
abbrev ScriptRegistry := Dictionary String

namespace ScriptRegistry

/-- Queue a body under a key, unless one is queued already. -/
def queue (r : ScriptRegistry) (key body : String) : ScriptRegistry := r.insertNew (key, body)

/-- Offer a body under a key: the registry after that, and whether the body was queued. -/
def offer (r : ScriptRegistry) (key body : String) : ScriptRegistry × Bool :=
  if r.contains key then (r, false) else (queue r key body, true)

/-- Take a key out: the registry without it, and the body that was queued under it. -/
def takeOut (r : ScriptRegistry) (key : String) : ScriptRegistry × Option String :=
  (r.erase key, r.get? key)

/-- Queue the bodies of a list in order. -/
def ofList (scripts : List (String × String)) : ScriptRegistry :=
  scripts.foldl (fun r s => queue r s.1 s.2) .empty

end ScriptRegistry

/-- A script element with a body. -/
def scriptTag (body : String) : String :=
  "<script type='text/javascript'>" ++ body ++ "</script>"

end SplitTest

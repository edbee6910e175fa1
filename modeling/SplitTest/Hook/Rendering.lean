import SplitTest.Hook.Evaluation

/-!
# Rendering scripts

A page position shows the script of every experiment that has one queued there,
in the dataset's order.  Scripts of request experiments, and of experiments that
no longer take place, are used up; the others stay queued.
-/

namespace SplitTest

open SplitTest.Store

namespace ScriptPosition

/-- The script element of an entry at a position, or nothing. -/
def element (p : ScriptPosition) (scripts : ScriptRegistry) (e : Entry) : String :=
  ((scripts.get? (p.key e.shortname)).map scriptTag).getD ""

/-- Whether rendering uses up the script of an entry. -/
def usesUp (e : Entry) : Bool := e.scope == .request || !e.enabled

/-- The text of a position and the scripts that stay queued, for entries in order. -/
def renderEntries (p : ScriptPosition) : List Entry → ScriptRegistry → String × ScriptRegistry
  | [], scripts => ("", scripts)
  | e :: es, scripts =>
    let left := if usesUp e then scripts.erase (p.key e.shortname) else scripts
    let (rest, scripts') := p.renderEntries es left
    (p.element scripts e ++ rest, scripts')

/-- Whether rendering reads the dataset for a request. -/
def readsDataset (s : Settings) (r : Request) : Bool := !r.adminDisabled s

/-- Render a position with what reading the dataset gives: the text, and the scripts
that stay queued. -/
def attempt (p : ScriptPosition) (s : Settings) (r : Request) (read : Except StoreError Dataset)
    (scripts : ScriptRegistry) : Except StoreError (String × ScriptRegistry) :=
  if r.adminDisabled s then .ok ("", scripts)
  else
    match read with
    | .error e => .error e
    | .ok d => .ok (p.renderEntries d.items scripts)

/-- Render a position, best effort: the text, the scripts that stay queued, and what
is reported. -/
def render (p : ScriptPosition) (s : Settings) (r : Request) (read : Except StoreError Dataset)
    (scripts : ScriptRegistry) : String × ScriptRegistry × List Event :=
  match p.attempt s r read scripts with
  | .ok (text, scripts') => (text, scripts', [])
  | .error e => ("", scripts, [.renderingSkipped p e])

end ScriptPosition

end SplitTest

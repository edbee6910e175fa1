import SplitTest.Host.Execution
import SplitTest.Store.Audit
import SplitTest.Store.Error

/-!
# Events

Hooks, the store and the cache report what they do as events.  An event is a
cause; its level, target, message and fields are functions of it.
-/

namespace SplitTest

open SplitTest.Text SplitTest.Store

/-- How a condition came to be chosen. -/
inductive Selection where
  /-- By the request itself. -/
  | byOverride
  /-- By a draw. -/
  | draw (n : Nat)
  /-- By the bucket of the device. -/
  | hash (n : Nat)
  /-- By an earlier decision of the session. -/
  | replay
deriving DecidableEq, Repr

/-- The name of the way, with its number. -/
def Selection.label : Selection → String
  | byOverride => "Override"
  | draw n => "Draw(" ++ ofNat n ++ ")"
  | hash n => "Hash(" ++ ofNat n ++ ")"
  | replay => "Replay"

/-- The hooks that choose and run conditions. -/
inductive EvaluationHook where
  /-- Once the configuration was read. -/
  | afterConfig
  /-- Before the session starts. -/
  | beforeSession
  /-- Once the user is known. -/
  | afterRequireLogin
deriving DecidableEq, Repr

/-- The name of the hook. -/
def EvaluationHook.name : EvaluationHook → String
  | afterConfig => "after_config"
  | beforeSession => "before_session"
  | afterRequireLogin => "after_require_login"

/-- How urgent an event is. -/
inductive Level where
  | debug
  | info
  | warn
  | error
deriving DecidableEq, Repr

/-- The name of the level. -/
def Level.name : Level → String
  | debug => "DEBUG"
  | info => "INFO"
  | warn => "WARN"
  | error => "ERROR"

/-- What happened. -/
inductive Event where
  /-- A hook gave up because the dataset could not be read. -/
  | evaluationSkipped (hook : EvaluationHook) (error : StoreError)
  /-- A page position was left empty because the dataset could not be read. -/
  | renderingSkipped (position : ScriptPosition) (error : StoreError)
  /-- A request asked for a condition that does not exist. -/
  | unknownOverride (experiment condset : String)
  /-- A session remembers a condition that does not exist. -/
  | staleMemo (experiment condset : String)
  /-- A session experiment was decided, with the empty condset for none. -/
  | sessionDecided (experiment condset : String) (draw : Nat)
  /-- A condition was chosen and runs. -/
  | conditionFired (experiment condset : String) (selection : Selection)
  /-- A line was skipped. -/
  | commandSkipped (rejection : Rejection)
  /-- The dataset was read and cached. -/
  | cacheRebuilt (experiments : Nat)
  /-- The dataset was read while it changed, and not cached. -/
  | loadOverlapped
  /-- The dataset could not be read and counts as empty. -/
  | snapshotUnavailable (error : StoreError)
  /-- An experiment was added. -/
  | experimentAdded (shortname : String) (id : ExperimentId) (scope : Scope)
  /-- An experiment was deleted with so many conditions. -/
  | experimentDeleted (shortname : String) (conditions : Nat)
  /-- A condition was stored that would write a setting. -/
  | configChange (entry : AuditEntry)
  /-- An entry of an allow-list could not be read. -/
  | unreadableEntry (entry : String)
  /-- The site's log got a warning. -/
  | siteWarning (line : String)
  /-- The site's log got an error. -/
  | siteError (line : String)
deriving DecidableEq, Repr

namespace Event

/-- How urgent the event is. -/
def level : Event → Level
  | commandSkipped _ | snapshotUnavailable _ | siteWarning _ => .warn
  | experimentAdded .. | experimentDeleted .. | configChange _ => .info
  | siteError _ => .error
  | _ => .debug

/-- The log the event goes to, if it is not the common one. -/
def target? : Event → Option String
  | configChange _ => some "abconfig::audit"
  | siteWarning _ | siteError _ => some "abconfig"
  | _ => none

/-- The text of the event. -/
def message : Event → String
  | evaluationSkipped hook _ => hook.name ++ " evaluation skipped"
  | renderingSkipped .. => "script rendering skipped"
  | unknownOverride .. => "override names unknown condset"
  | staleMemo .. => "memoized condset no longer exists"
  | sessionDecided .. => "session experiment decided"
  | conditionFired .. => "condition fired"
  | commandSkipped _ => "command skipped"
  | cacheRebuilt _ => "experiment cache rebuilt"
  | loadOverlapped => "dataset changed during load, snapshot not cached"
  | snapshotUnavailable _ => "experiment snapshot unavailable"
  | experimentAdded .. => "experiment added"
  | experimentDeleted .. => "experiment deleted"
  | configChange _ => "conditional config change"
  | unreadableEntry _ => "ignoring unrecognised allow-list entry"
  | siteWarning line => line
  | siteError line => line

/-- The named values of the event, as text. -/
def fields : Event → List (String × String)
  | evaluationSkipped _ e => [("error", e.hookMessage)]
  | renderingSkipped p e => [("error", e.hookMessage), ("position", p.name)]
  | unknownOverride x c => [("experiment", x), ("condset", c)]
  | staleMemo x c => [("experiment", x), ("condset", c)]
  | sessionDecided x c n => [("experiment", x), ("condset", c), ("num", ofNat n)]
  | conditionFired x c s => [("experiment", x), ("condset", c), ("selection", s.label)]
  | commandSkipped r =>
    [("experiment", r.experiment), ("line", r.line), ("reason", r.reason.message)]
  | cacheRebuilt n => [("experiments", ofNat n)]
  | loadOverlapped => []
  | snapshotUnavailable e => [("error", e.message)]
  | experimentAdded x id s => [("experiment", x), ("id", ofInt id.value), ("scope", s.name)]
  | experimentDeleted x n => [("experiment", x), ("conditions", ofNat n)]
  | configChange a =>
    [("name", a.name), ("value", a.value), ("plugin", a.plugin), ("experiment", a.experiment)]
  | unreadableEntry e => [("entry", e)]
  | siteWarning _ => []
  | siteError _ => []

end Event

end SplitTest

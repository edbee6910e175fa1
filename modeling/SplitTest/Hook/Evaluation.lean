import SplitTest.Hook.Plan
import SplitTest.Hook.Report

/-!
# The evaluation hooks

A hook passes a gate, reads the dataset, makes its plan and runs it.  The gate
stops a request that switched experiments off, and before the session also one
without an address or a user agent; then nothing changes and the dataset is not
read.

`attempt` answers the error of a dataset that cannot be read.  `run` is best
effort: it reports the error as an event and answers the empty report.
-/

namespace SplitTest

open SplitTest.Store

namespace Host

/-- Run the chosen conditions in order; a choice that names no condition is passed
over. -/
def fire (h : Host) : List Selected → Host × List (Firing × ExecutionReport)
  | [] => (h, [])
  | x :: xs =>
    match x.entry.condition? x.condset with
    | none => h.fire xs
    | some c =>
      let (h₁, execution) := h.execute x.entry.shortname c.commands
      let (h₂, runs) := h₁.fire xs
      (h₂, (⟨x.entry.shortname, x.condset, x.selection⟩, execution) :: runs)

end Host

/-- What running a condition reports: that it fired, and every line that was skipped. -/
def runEvents (run : Firing × ExecutionReport) : List Event :=
  .conditionFired run.1.experiment run.1.condset run.1.selection
    :: run.2.rejected.map Event.commandSkipped

/-- What a hook does with a request before it reads the dataset. -/
inductive Gate where
  /-- It goes on, for the device if it needs one. -/
  | proceed (device : Option Device.Fingerprint)
  /-- The request switched experiments off. -/
  | switchedOff
  /-- The request has no device. -/
  | noDevice
deriving DecidableEq

namespace Request

/-- Whether an administrator switched experiments off. -/
def adminDisabled (r : Request) (s : Settings) : Bool :=
  r.requester.isAdmin && r.disabledBy s.disableParam

/-- The device of a request that tells its address and user agent. -/
def device? (r : Request) : Option Device.Fingerprint :=
  match r.requester.address, r.requester.userAgent with
  | some address, some userAgent => some (.compute address userAgent)
  | _, _ => none

end Request

/-- The result of a hook: its answer, and the state it leaves. -/
structure HookResult (α : Type) where
  /-- The answer, or why the dataset could not be read. -/
  answer : α
  /-- The host after the hook. -/
  host : Host
  /-- The draws after the hook. -/
  draws : Draws
  /-- What the hook reports, in order. -/
  events : List Event

namespace EvaluationHook

/-- The gate of a hook.  Only administrators can switch off the hooks that know
the user; before the session everyone can. -/
def gate (k : EvaluationHook) (s : Settings) (r : Request) : Gate :=
  match k with
  | .afterConfig | .afterRequireLogin =>
    if r.adminDisabled s then .switchedOff else .proceed none
  | .beforeSession =>
    match r.device? with
    | none => .noDevice
    | some f => if r.disabledBy s.disableParam then .switchedOff else .proceed (some f)

/-- Whether a hook reads the dataset for a request. -/
def readsDataset (k : EvaluationHook) (s : Settings) (r : Request) : Bool :=
  match k.gate s r with
  | .proceed _ => true
  | _ => false

/-- The plan of a hook that passed its gate. -/
def plan (k : EvaluationHook) (device : Option Device.Fingerprint) (s : Settings) (r : Request)
    (d : Dataset) (session : Session) (draws : Draws) : Plan :=
  match k, device with
  | .afterConfig, _ => .afterConfig s r d session draws
  | .afterRequireLogin, _ => .afterRequireLogin s r d session draws
  | .beforeSession, some f => .beforeSession f r d session draws
  | .beforeSession, none => ⟨[], session, draws, []⟩

/-- Run a plan on a host. -/
def perform (h : Host) (p : Plan) : HookResult Report :=
  let (h', runs) := { h with session := p.session }.fire p.selected
  ⟨.ofRuns runs, h', p.draws, p.events ++ runs.flatMap runEvents⟩

/-- Run a hook with what reading the dataset gives. -/
def attempt (k : EvaluationHook) (s : Settings) (r : Request) (read : Except StoreError Dataset)
    (h : Host) (draws : Draws) : HookResult (Except StoreError Report) :=
  match k.gate s r with
  | .switchedOff => ⟨.ok .switchedOff, h, draws, []⟩
  | .noDevice => ⟨.ok .empty, h, draws, []⟩
  | .proceed device =>
    match read with
    | .error e => ⟨.error e, h, draws, []⟩
    | .ok d =>
      let result := perform h (k.plan device s r d h.session draws)
      ⟨.ok result.answer, result.host, result.draws, result.events⟩

/-- Run a hook, best effort. -/
def run (k : EvaluationHook) (s : Settings) (r : Request) (read : Except StoreError Dataset)
    (h : Host) (draws : Draws) : HookResult Report :=
  let result := k.attempt s r read h draws
  match result.answer with
  | .ok report => ⟨report, result.host, result.draws, result.events⟩
  | .error e =>
    ⟨.empty, result.host, result.draws, result.events ++ [.evaluationSkipped k e]⟩

end EvaluationHook

end SplitTest

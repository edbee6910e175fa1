import SplitTest.Hook.Rendering
import SplitTest.Store.Manager

/-!
# Visits

A visit is a sequence of hook calls that share a host, its session and the draws,
over a source of datasets.  The source may change with every read, as the cache of
a manager does, and is only read by calls that pass their gate.
-/

namespace SplitTest

open SplitTest.Store

/-- A call of a hook; the strict ones answer the error of a dataset that cannot be
read, and the others make the best of it. -/
inductive HookCall where
  | evaluate (k : EvaluationHook)
  | evaluateStrictly (k : EvaluationHook)
  | render (p : ScriptPosition)
  | renderStrictly (p : ScriptPosition)
deriving DecidableEq, Repr

/-- The answer of a hook call. -/
inductive HookAnswer where
  | report (r : Report)
  | text (s : String)
  | failure (e : StoreError)
deriving DecidableEq, Repr

/-- A source of datasets: what one read gives, what it reports, and the source after it. -/
abbrev Source (σ : Type) := σ → Except StoreError Dataset × List Event × σ

/-- The source that always gives the same. -/
def Source.fixed : Source (Except StoreError Dataset) := fun read => (read, [], read)

/-- The source that reads through the cache of a manager. -/
def Source.ofManager : Source Manager := fun m =>
  let (read, m') := Action.snapshot.runOn { m with events := [] }
  (read, m'.events, { m' with events := m.events })

/-- The state of a visit. -/
structure Visit (σ : Type) where
  /-- Where datasets come from. -/
  source : σ
  /-- The settings of the evaluation. -/
  settings : Settings
  /-- The current request. -/
  request : Request
  /-- The host. -/
  host : Host
  /-- The draws. -/
  draws : Draws
  /-- What was reported, in order. -/
  events : List Event

namespace HookCall

/-- Whether a call reads the dataset. -/
def readsDataset (c : HookCall) (s : Settings) (r : Request) : Bool :=
  match c with
  | evaluate k | evaluateStrictly k => k.readsDataset s r
  | render _ | renderStrictly _ => ScriptPosition.readsDataset s r

/-- A call with what reading the dataset gives. -/
def run (c : HookCall) (s : Settings) (r : Request) (read : Except StoreError Dataset)
    (h : Host) (draws : Draws) : HookResult HookAnswer :=
  match c with
  | evaluate k =>
    let result := k.run s r read h draws
    ⟨.report result.answer, result.host, result.draws, result.events⟩
  | evaluateStrictly k =>
    let result := k.attempt s r read h draws
    let answer := match result.answer with
      | .ok report => HookAnswer.report report
      | .error e => .failure e
    ⟨answer, result.host, result.draws, result.events⟩
  | render p =>
    let (text, scripts, events) := p.render s r read h.scripts
    ⟨.text text, { h with scripts := scripts }, draws, events⟩
  | renderStrictly p =>
    match p.attempt s r read h.scripts with
    | .ok (text, scripts) => ⟨.text text, { h with scripts := scripts }, draws, []⟩
    | .error e => ⟨.failure e, h, draws, []⟩

end HookCall

namespace Visit
variable {σ : Type}

/-- Make a call. -/
def call (source : Source σ) (v : Visit σ) (c : HookCall) : HookAnswer × Visit σ :=
  let (read, reported, left) :=
    if c.readsDataset v.settings v.request then source v.source
    else (.ok .empty, [], v.source)
  let result := c.run v.settings v.request read v.host v.draws
  (result.answer,
    { v with
      source := left
      host := result.host
      draws := result.draws
      events := v.events ++ reported ++ result.events })

/-- Begin a new request, which has no scripts but those given. -/
def begin (v : Visit σ) (r : Request) (scripts : ScriptRegistry) : Visit σ :=
  { v with request := r, host := { v.host with scripts := scripts } }

/-- Send the response, and tell the headers that went with it. -/
def sendHeaders (v : Visit σ) : List (String × String) × Visit σ :=
  let (sent, buffer) := v.host.headers.send
  (sent, { v with host := { v.host with headers := buffer } })

end Visit

end SplitTest

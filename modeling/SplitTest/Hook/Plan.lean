import SplitTest.Dataset
import SplitTest.Draws
import SplitTest.Eligibility
import SplitTest.Event
import SplitTest.Selector
import SplitTest.Settings

/-!
# What a hook chooses

Each hook first chooses conditions and then runs them.  Choosing depends on the
dataset, the request, the session and the draws alone:

* **After the configuration was read** come the overrides of the request, then a
  draw for each request experiment and for each after-config experiment without an
  override, then the decisions that the session remembers.
* **Before the session** come the overrides, then the bucket of the device in each
  device experiment.
* **After login** comes a draw for each session experiment that the session has
  not decided; the decision is written to the session, the empty text for none.

The `k`-th experiment that draws takes the `k`-th draw, whoever wins it.
-/

namespace SplitTest

/-- A condition that was chosen. -/
structure Selected where
  /-- The experiment with its conditions. -/
  entry : Entry
  /-- The name of the condition. -/
  condset : String
  /-- How it was chosen. -/
  selection : Selection
deriving DecidableEq

/-- What a hook chose, with the session and the draws that choosing left. -/
structure Plan where
  /-- The chosen conditions in the order in which they run. -/
  selected : List Selected
  /-- The session after choosing. -/
  session : Session
  /-- The draws after choosing. -/
  draws : Draws
  /-- What choosing reports. -/
  events : List Event

/-! ## Overrides -/

namespace Request

/-- The condset that a request asks of an experiment once the configuration was
read: the environment variable in a shell, the parameter for an administrator. -/
def askedAfterConfig (r : Request) (s : Settings) (shortname : String) : Option String :=
  match r.mode with
  | .cli => r.envVar? (s.envVar shortname)
  | .web => if r.requester.isAdmin then r.param? shortname else none

end Request

namespace Entry

/-- The condset that is asked of an experiment, if it is one of its own. -/
def override? (e : Entry) (asked : Option String) : Option String :=
  asked.filter fun c => c != "" && (e.condition? c).isSome

/-- The condset that is asked of an experiment, if it is none of its own. -/
def unknownOverride? (e : Entry) (asked : Option String) : Option String :=
  asked.filter fun c => c != "" && (e.condition? c).isNone

end Entry

/-- The overrides among entries, `asked` giving what is asked of an experiment. -/
def overrides (asked : String → Option String) (es : List Entry) : List Selected :=
  es.filterMap fun e => (e.override? (asked e.shortname)).map fun c => ⟨e, c, .byOverride⟩

/-- The reports of what was asked in vain. -/
def unknownOverrides (asked : String → Option String) (es : List Entry) : List Event :=
  es.filterMap fun e =>
    (e.unknownOverride? (asked e.shortname)).map fun c => .unknownOverride e.shortname c

/-! ## Draws -/

/-- The condition of an entry that a draw falls on. -/
def Entry.drawn? (e : Entry) (r : Requester) (n : Nat) : Option Selected :=
  ((Selector.uniform n).select Condition.weight (e.eligible r)).map fun c =>
    ⟨e, c.condset, .draw n⟩

/-- Entries, each with the draw that it takes. -/
def withDraws (es : List Entry) (d : Draws) : List (Entry × Nat) := es.zip (d.take es.length)

/-- The conditions that the draws of entries fall on. -/
def drawnFrom (r : Requester) (rolls : List (Entry × Nat)) : List Selected :=
  rolls.filterMap fun roll => roll.1.drawn? r roll.2

/-- Whether an enabled experiment draws once the configuration was read: request
experiments do, and after-config experiments that were not overridden. -/
def drawsAfterConfig (overridden : List String) (e : Entry) : Bool :=
  match e.scope with
  | .request => true
  | .afterConfig => !overridden.contains e.shortname
  | .session | .device => false

/-! ## Sessions and devices -/

/-- The condset that a session remembers for an experiment, unless it is empty. -/
def memo? (s : Settings) (session : Session) (shortname : String) : Option String :=
  (session.get? (s.sessionKey shortname)).filter (· != "")

/-- The decisions of a session that name a condition. -/
def replays (s : Settings) (session : Session) (es : List Entry) : List Selected :=
  es.filterMap fun e =>
    ((memo? s session e.shortname).filter fun c => (e.condition? c).isSome).map fun c =>
      ⟨e, c, .replay⟩

/-- The reports of decisions that name no condition. -/
def staleMemos (s : Settings) (session : Session) (es : List Entry) : List Event :=
  es.filterMap fun e =>
    ((memo? s session e.shortname).filter fun c => (e.condition? c).isNone).map fun c =>
      .staleMemo e.shortname c

/-- The conditions that the bucket of a device falls on. -/
def hashed (f : Device.Fingerprint) (r : Requester) (es : List Entry) : List Selected :=
  es.filterMap fun e =>
    let s := Selector.ofDevice f e.experiment.numericOffset
    (s.select Condition.weight (e.eligible r)).map fun c => ⟨e, c.condset, .hash s.point⟩

/-- The session experiments that a session has to decide for a requester. -/
def undecided (s : Settings) (r : Requester) (session : Session) (d : Dataset) : List Entry :=
  (d.activeIn .session).filter fun e =>
    e.experiment.appliesTo r && !session.contains (s.sessionKey e.shortname)

/-- What is decided by a draw of a session experiment: a condset, or the empty text. -/
def decision (r : Requester) (roll : Entry × Nat) : String :=
  ((roll.1.drawn? r roll.2).map Selected.condset).getD ""

/-- The session with the decisions of draws written to it. -/
def decide (s : Settings) (r : Requester) (session : Session) (rolls : List (Entry × Nat)) :
    Session :=
  rolls.foldl (fun acc roll => acc.set (s.sessionKey roll.1.shortname) (decision r roll)) session

/-! ## The plans of the hooks -/

namespace Plan

/-- The plan once the configuration was read. -/
def afterConfig (s : Settings) (r : Request) (d : Dataset) (session : Session) (draws : Draws) :
    Plan :=
  let asked := r.askedAfterConfig s
  let chosen := overrides asked d.overridableAfterConfig
  let overridden := chosen.map fun x => x.entry.shortname
  let drawing := d.active.filter fun e =>
    drawsAfterConfig overridden e && e.experiment.appliesTo r.requester
  { selected := chosen ++ drawnFrom r.requester (withDraws drawing draws)
      ++ replays s session (d.activeIn .session)
    session := session
    draws := { draws with rolls := draws.rolls + drawing.length }
    events := unknownOverrides asked d.overridableAfterConfig
      ++ staleMemos s session (d.activeIn .session) }

/-- The plan before the session starts, for a device. -/
def beforeSession (f : Device.Fingerprint) (r : Request) (d : Dataset) (session : Session)
    (draws : Draws) : Plan where
  selected := overrides r.param? d.overridableBeforeSession
    ++ hashed f r.requester (d.activeIn .device)
  session := session
  draws := draws
  events := unknownOverrides r.param? d.overridableBeforeSession

/-- The plan after login. -/
def afterRequireLogin (s : Settings) (r : Request) (d : Dataset) (session : Session)
    (draws : Draws) : Plan :=
  let deciding := undecided s r.requester session d
  let rolls := withDraws deciding draws
  { selected := drawnFrom r.requester rolls
    session := decide s r.requester session rolls
    draws := { draws with rolls := draws.rolls + deciding.length }
    events := rolls.map fun roll =>
      .sessionDecided roll.1.shortname (decision r.requester roll) roll.2 }

end Plan

end SplitTest

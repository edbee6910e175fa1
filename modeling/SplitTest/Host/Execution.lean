import SplitTest.Host.Basic
import SplitTest.CommandList

/-!
# Executing commands

The commands of a condition run in order, each on the host that the one before it
left.  A line that cannot take effect is skipped and recorded; the rest still run.

A setting that the static configuration fixed, or that an earlier command wrote,
is only written with permission (`SiteConfig.isLocked`); a refused write is also a
warning in the site's log.  Headers need a response that has not been sent, and a
script needs a key without a script.
-/

namespace SplitTest

/-- Why a line was skipped. -/
inductive RejectReason where
  /-- A locked site setting. -/
  | configAlreadySet (name : String)
  /-- A locked plugin setting. -/
  | pluginSettingAlreadySet (plugin name : String)
  /-- A header for a response that has been sent. -/
  | headersAlreadySent (name : String)
  /-- A line with too few fields. -/
  | malformed (fault : MalformedCommand)
deriving DecidableEq, Repr

/-- The text of the reason. -/
def RejectReason.message : RejectReason → String
  | configAlreadySet name =>
    "can't override config `" ++ name ++ "`: already set in static configuration"
  | pluginSettingAlreadySet plugin name =>
    "can't override forced setting `" ++ plugin ++ "/" ++ name
      ++ "`: already set in static configuration"
  | headersAlreadySent name => "headers already sent, dropped `" ++ name ++ "`"
  | malformed fault => fault.message

/-- What became of a line. -/
inductive LineOutcome where
  /-- It took effect. -/
  | applied
  /-- There was nothing to do: an unknown verb, or a script whose key was taken. -/
  | ignored
  /-- It was skipped. -/
  | rejected (reason : RejectReason)
deriving DecidableEq, Repr

/-- A skipped line. -/
structure Rejection where
  /-- The experiment it belongs to. -/
  experiment : String
  /-- The line as stored. -/
  line : String
  /-- Why it was skipped. -/
  reason : RejectReason
deriving DecidableEq, Repr

/-- The tally of a run of lines. -/
structure ExecutionReport where
  /-- Number of lines that took effect. -/
  applied : Nat
  /-- Number of lines with nothing to do. -/
  ignored : Nat
  /-- The skipped lines in order. -/
  rejected : List Rejection
deriving DecidableEq, Repr, Inhabited

namespace ExecutionReport

/-- The tally of no lines. -/
def empty : ExecutionReport := ⟨0, 0, []⟩

/-- Whether no line was skipped. -/
def isClean (r : ExecutionReport) : Bool := r.rejected.isEmpty

/-- The tally of one run after another. -/
def merge (r s : ExecutionReport) : ExecutionReport :=
  ⟨r.applied + s.applied, r.ignored + s.ignored, r.rejected ++ s.rejected⟩

/-- The tally of lines of an experiment, from what became of each. -/
def ofOutcomes (experiment : String) (outcomes : List (String × LineOutcome)) :
    ExecutionReport where
  applied := outcomes.countP fun o => o.2 = .applied
  ignored := outcomes.countP fun o => o.2 = .ignored
  rejected := outcomes.filterMap fun o =>
    match o.2 with
    | .rejected reason => some ⟨experiment, o.1, reason⟩
    | _ => none

end ExecutionReport

namespace Host

/-- A refused write: a warning in the site's log, and the reason. -/
def refuse (h : Host) (reason : RejectReason) : Host × LineOutcome :=
  ({ h with log := h.log.warn ("abconfig: " ++ reason.message) }, .rejected reason)

/-- Queue a script of an experiment. -/
def queueScript (h : Host) (p : ScriptPosition) (experiment body : String) : Host × LineOutcome :=
  let key := p.key experiment
  if h.scripts.contains key then (h, .ignored)
  else ({ h with scripts := ScriptRegistry.queue h.scripts key body }, .applied)

/-- Run one command of an experiment. -/
def apply (h : Host) (experiment : String) : Command → Host × LineOutcome
  | .cfg name value =>
    if h.config.isLocked name then h.refuse (.configAlreadySet name)
    else ({ h with config := h.config.set name value }, .applied)
  | .forcedPluginSetting plugin name value =>
    if h.config.isLockedFor plugin name then h.refuse (.pluginSettingAlreadySet plugin name)
    else ({ h with config := h.config.force plugin name value }, .applied)
  | .httpHeader name value =>
    match h.headers.emit? name value with
    | some headers => ({ h with headers := headers }, .applied)
    | none => (h, .rejected (.headersAlreadySent name))
  | .errorLog message => ({ h with log := h.log.fail message }, .applied)
  | .jsHeader body => h.queueScript .header experiment body
  | .jsFooter body => h.queueScript .footer experiment body
  | .unknown _ => (h, .ignored)

/-- Run one line of an experiment. -/
def applyLine (h : Host) (experiment line : String) : Host × LineOutcome :=
  match Command.parse line with
  | .ok c => h.apply experiment c
  | .error fault => (h, .rejected (.malformed fault))

/-- Run lines of an experiment in order, with what became of each. -/
def applyLines (h : Host) (experiment : String) : List String → Host × List (String × LineOutcome)
  | [] => (h, [])
  | line :: rest =>
    let (h₁, outcome) := h.applyLine experiment line
    let (h₂, outcomes) := h₁.applyLines experiment rest
    (h₂, (line, outcome) :: outcomes)

/-- Run the commands of a condition of an experiment. -/
def execute (h : Host) (experiment : String) (commands : CommandList) : Host × ExecutionReport :=
  let (h', outcomes) := h.applyLines experiment commands.lines
  (h', .ofOutcomes experiment outcomes)

end Host

end SplitTest

import SplitTest.Condition
import SplitTest.Keyed

/-!
# Datasets

A dataset is every experiment with its conditions, both in stored order.
Shortnames are distinct in a dataset and condsets in an experiment; of repeated
ones the last content stands at the first place.
-/

namespace SplitTest

/-- An experiment with its conditions. -/
structure Entry where
  /-- The experiment. -/
  experiment : Experiment
  /-- Its conditions in stored order. -/
  conditions : Keyed Condition.condset
deriving DecidableEq

namespace Entry

/-- Conditions grouped under their experiment. -/
def ofList (experiment : Experiment) (conditions : List Condition) : Entry :=
  ⟨experiment, .ofList conditions⟩

/-- The shortname of the experiment. -/
def shortname (e : Entry) : String := e.experiment.shortname

/-- The scope of the experiment. -/
def scope (e : Entry) : Scope := e.experiment.scope

/-- Whether the experiment takes place. -/
def enabled (e : Entry) : Bool := e.experiment.enabled

/-- The condition with a name. -/
def condition? (e : Entry) (condset : String) : Option Condition := e.conditions.find? condset

end Entry

/-- Experiments in stored order, no two of one shortname. -/
abbrev Dataset := Keyed Entry.shortname

namespace Dataset

/-- The enabled experiments. -/
def active (d : Dataset) : List Entry := d.items.filter Entry.enabled

/-- The enabled experiments of a scope. -/
def activeIn (d : Dataset) (s : Scope) : List Entry :=
  d.items.filter fun e => e.enabled && e.scope == s

/-- The experiments that can be overridden once the configuration was read: the
enabled ones outside the device scope. -/
def overridableAfterConfig (d : Dataset) : List Entry :=
  d.items.filter fun e => e.enabled && e.scope != .device

/-- The experiments that can be overridden before the session starts: the enabled
ones of the device scope. -/
def overridableBeforeSession (d : Dataset) : List Entry := d.activeIn .device

end Dataset

end SplitTest

import SplitTest.CommandList

/-!
# Audit of conditional settings

When a condition is stored, every site or plugin setting that its commands would
write is recorded: what would be written, at which weight, for which experiment.
Running a condition records nothing.
-/

namespace SplitTest.Store

open SplitTest.Text

/-- A setting that a condition would write. -/
structure AuditEntry where
  /-- Name of the setting. -/
  name : String
  /-- The value before; conditional settings have none. -/
  oldValue : String
  /-- The value that would be written. -/
  value : String
  /-- The plugin, or `core`, and the weight of the condition. -/
  plugin : String
  /-- Shortname of the experiment. -/
  experiment : String
deriving DecidableEq, Repr

namespace AuditEntry

/-- How an entry names the owner of a setting and the weight of a condition. -/
def pluginLabel (owner : String) (weight : Nat) : String :=
  owner ++ "-experiment:" ++ ofNat weight

/-- The entry for a command; none for one that writes no setting. -/
def ofCommand? (experiment : String) (weight : Nat) : Command → Option AuditEntry
  | .cfg name value => some ⟨name, "", value, pluginLabel "core" weight, experiment⟩
  | .forcedPluginSetting plugin name value =>
    some ⟨name, "", value, pluginLabel plugin weight, experiment⟩
  | _ => none

/-- The entries for the commands of a list, in order; malformed lines have none. -/
def ofCommands (experiment : String) (weight : Nat) (commands : CommandList) : List AuditEntry :=
  commands.parsed.filterMap fun p =>
    match p.2 with
    | .ok c => ofCommand? experiment weight c
    | .error _ => none

end AuditEntry

end SplitTest.Store

import SplitTest.Document.Kept
import SplitTest.DatasetFile
import SplitTest.Host.Basic
import SplitTest.Settings
import SplitTest.Store.Record

/-!
# The documents

The decoder and the encoder of every type that is written to a document.  A list
of field names gives the order in which a record is encoded and may be listed.
-/

namespace SplitTest.Document

open SplitTest.Store

/-- The texts of a dictionary as a node, by name. -/
def ofTexts (d : Dictionary String) : Node :=
  .record (d.sorted.map fun p => (p.1, .text p.2))

/-- Texts as a list node. -/
def ofStrings (ss : List String) : Node := .list (ss.map .text)

/-- The users of a set as a list node. -/
def ofUsers (s : UserSet) : Node := .list (s.ids.map .ofInt)

/-- A value that may be missing. -/
def ofOptional {α : Type} (f : α → Node) (a : Option α) : Node := (a.map f).getD .null

/-! ## Values -/

/-- The scope a node names: its name, or a mapping from its name to nothing. -/
def scope : Decoder Scope
  | .fields [(.text s, .null)] => Scope.ofName? s
  | n => (Decoder.text n).bind Scope.ofName?

/-- The scope that a key of a kept mapping tells: by its name, or by its number in the
order of scopes. -/
def scopeOfKey : Decoder Scope
  | .plain s =>
    match Yaml.natural? s.toList with
    | some k => [Scope.request, .session, .device, .afterConfig][k]?
    | none => Scope.ofName? s
  | n => (Decoder.text n).bind Scope.ofName?

/-- The scope a kept node names: its name, or a mapping from what tells it to nothing
or to an empty mapping. -/
def keptScope : Decoder Scope
  | .fields [(k, .null)] => scopeOfKey k
  | .fields [(k, .fields [])] => scopeOfKey k
  | n => (Decoder.text n).bind Scope.ofName?

/-- A set of users. -/
def users : Decoder UserSet := fun n => (Decoder.listOf .int64 n).map .ofList

/-- An allow-list, as text. -/
def allowList : Decoder Net.AllowList := fun n => (Decoder.text n).map .parse

/-- A list of command lines. -/
def commandList : Decoder CommandList := fun n => (Decoder.listOf .text n).map CommandList.mk

/-- An offset, of eight bits. -/
def offset : Decoder Nat := .upTo 255

/-- A weight, of 32 bits. -/
def weight : Decoder Nat := .upTo 4294967295

/-! ## Settings and host state -/

/-- The fields of settings. -/
def settingsFields : List String :=
  ["disable_param", "env_prefix", "session_key_prefix", "cache_capacity", "cache_ttl_secs"]

/-- Settings; what is missing is as in `Settings.standard`. -/
def settings : Decoder Settings := fun n => do
  match ← Decoder.recordFields settingsFields n with
  | [param, env, session, capacity, lifetime] =>
    return {
      disableParam := ← Decoder.defaulted .text Settings.standard.disableParam param
      envStart := ← Decoder.defaulted .text Settings.standard.envStart env
      sessionKeyStart := ← Decoder.defaulted .text Settings.standard.sessionKeyStart session
      cacheCapacity :=
        ← Decoder.defaulted (.upTo 18446744073709551615) Settings.standard.cacheCapacity capacity
      cacheLifetime :=
        ← Decoder.defaulted (.optional (.upTo 18446744073709551615))
            Settings.standard.cacheLifetime lifetime }
  | _ => none

/-- Settings as a node. -/
def ofSettings (s : Settings) : Node :=
  .record (settingsFields.zip
    [.text s.disableParam, .text s.envStart, .text s.sessionKeyStart, .ofNat s.cacheCapacity,
      ofOptional .ofNat s.cacheLifetime])

/-- The fields of a site configuration. -/
def siteConfigFields : List String := ["values", "fixed", "forced_plugin_settings"]

/-- A site configuration; what is missing is empty. -/
def siteConfig : Decoder SiteConfig := fun n => do
  match ← Decoder.recordFields siteConfigFields n with
  | [values, fixed, forced] =>
    return {
      values := ← Decoder.defaulted (.dictionary .text) .empty values
      fixed := ← Decoder.defaulted (.dictionary .text) .empty fixed
      forced := ← Decoder.defaulted (.dictionary (.dictionary .text)) .empty forced }
  | _ => none

/-- A site configuration as a node. -/
def ofSiteConfig (c : SiteConfig) : Node :=
  .record (siteConfigFields.zip
    [ofTexts c.values, ofTexts c.fixed,
      .record ((Dictionary.sorted c.forced).map fun p => (p.1, ofTexts p.2))])

/-- A session. -/
def session : Decoder Session := .dictionary .text

/-! ## Experiments -/

/-- The fields of a draft. -/
def draftFields : List String :=
  ["name", "shortname", "scope", "enabled", "admin_enabled", "numeric_offset"]

/-- The values of the fields of a draft. -/
def ofDraftValues (d : ExperimentDraft) : List Node :=
  [.text d.name, .text d.shortname, .text d.scope.name, .bool d.enabled, .bool d.adminEnabled,
    .ofNat d.numericOffset]

/-- A draft of an experiment. -/
def draft : Decoder ExperimentDraft := fun n => do
  match ← Decoder.recordFields draftFields n with
  | [name, shortname, scopeName, enabled, adminEnabled, numericOffset] =>
    return {
      name := ← Decoder.required .text name
      shortname := ← Decoder.required .text shortname
      scope := ← Decoder.required scope scopeName
      enabled := ← Decoder.required .truth enabled
      adminEnabled := ← Decoder.required .truth adminEnabled
      numericOffset := ← Decoder.required offset numericOffset }
  | _ => none

/-- A draft as a node. -/
def ofDraft (d : ExperimentDraft) : Node := .record (draftFields.zip (ofDraftValues d))

/-- The fields of an experiment. -/
def experimentFields : List String := "id" :: draftFields

/-- An experiment with the values of its fields, given how its scope is told. -/
def experimentOf (scope : Decoder Scope) : List (Option Node) → Option Experiment
  | [id, name, shortname, scopeName, enabled, adminEnabled, numericOffset] => do
    return {
      id := ⟨← Decoder.required .int64 id⟩
      name := ← Decoder.required .text name
      shortname := ← Decoder.required .text shortname
      scope := ← Decoder.required scope scopeName
      enabled := ← Decoder.defaulted .truth false enabled
      adminEnabled := ← Decoder.defaulted .truth false adminEnabled
      numericOffset := ← Decoder.defaulted offset 0 numericOffset }
  | _ => none

/-- An experiment; nothing is checked but the types. -/
def experiment : Decoder Experiment := fun n =>
  (Decoder.recordFields experimentFields n).bind (experimentOf scope)

/-- The fields of an experiment with their values. -/
def experimentPairs (e : Experiment) : List (String × Node) :=
  experimentFields.zip
    [.ofInt e.id.value, .text e.name, .text e.shortname, .text e.scope.name, .bool e.enabled,
      .bool e.adminEnabled, .ofNat e.numericOffset]

/-- An experiment as a node. -/
def ofExperiment (e : Experiment) : Node := .record (experimentPairs e)

/-! ## Conditions -/

/-- The fields of a condition. -/
def conditionFields : List String :=
  ["id", "experiment_id", "condset", "ip_allow_list", "commands", "weight", "users"]

/-- A condition. -/
def condition : Decoder Condition := fun n => do
  match ← Decoder.recordFields conditionFields n with
  | [id, owner, condset, allowed, commands, share, targeted] =>
    return {
      id := ⟨← Decoder.required .int64 id⟩
      experimentId := ⟨← Decoder.required .int64 owner⟩
      condset := ← Decoder.required .text condset
      allowList := ← Decoder.defaulted allowList .empty allowed
      commands := ← Decoder.defaulted commandList ⟨[]⟩ commands
      weight := ← Decoder.required weight share
      users := ← Decoder.defaulted users .empty targeted }
  | _ => none

/-- A condition as a node. -/
def ofCondition (c : Condition) : Node :=
  .record (conditionFields.zip
    [.ofInt c.id.value, .ofInt c.experimentId.value, .text c.condset, .text c.allowList.source,
      ofStrings c.commands.lines, .ofNat c.weight, ofUsers c.users])

/-- The fields of a stored condition. -/
def recordFields : List String :=
  ["id", "experiment_id", "condset", "ip_allow_list", "commands_json", "weight", "users"]

/-- A stored condition in a format, which must be a mapping; its columns are a part. -/
def conditionRecord (f : Format) : Decoder ConditionRecord := fun n => do
  match ← (keeping f ["id", "experiment_id"] n).bind (Decoder.mappedFields recordFields) with
  | [id, owner, condset, allowed, commands, share, targeted] =>
    return {
      id := ⟨← Decoder.required .int64 id⟩
      experimentId := ⟨← Decoder.required .int64 owner⟩
      fields :=
        { condset := ← Decoder.required .text condset
          allowList := ← Decoder.required .text allowed
          commands := ← Decoder.required .text commands
          weight := ← Decoder.required weight share
          users := ← Decoder.required users targeted } }
  | _ => none

/-- A stored condition as a node. -/
def ofConditionRecord (r : ConditionRecord) : Node :=
  .record (recordFields.zip
    [.ofInt r.id.value, .ofInt r.experimentId.value, .text r.fields.condset,
      .text r.fields.allowList, .text r.fields.commands, .ofNat r.fields.weight,
      ofUsers r.fields.users])

/-! ## Entries -/

/-- An experiment with conditions by the names of a document, which need not be
their condsets. -/
structure NamedEntry where
  /-- The experiment. -/
  experiment : Experiment
  /-- The conditions by name, in the order of the document. -/
  conditions : Dictionary Condition

/-- The experiment of an entry among the values of its fields, and its conditions. -/
def splitEntry : List (Option Node) → Option (Experiment × Option Node)
  | [a, b, c, d, e, f, g, conditions] =>
    (experimentOf keptScope [a, b, c, d, e, f, g]).map fun x => (x, conditions)
  | _ => none

/-- An entry in a format, which must be a mapping; its experiment is a part. -/
def entry (f : Format) : Decoder NamedEntry := fun n => do
  let values ←
    (keeping f ["conditions"] n).bind (Decoder.mappedFields (experimentFields ++ ["conditions"]))
  let (x, conditions) ← splitEntry values
  return ⟨x, ← Decoder.required (.dictionary condition) conditions⟩

/-- An entry as a node. -/
def ofEntry (e : NamedEntry) : Node :=
  .record (experimentPairs e.experiment
    ++ [("conditions", .record (e.conditions.items.map fun p => (p.1, ofCondition p.2)))])

/-! ## Dataset files -/

/-- The fields of a condition in a dataset file. -/
def conditionSpecFields : List String :=
  ["condset", "weight", "ip_allow_list", "commands", "users"]

/-- A condition of a dataset file. -/
def conditionSpec : Decoder ConditionSpec := fun n => do
  match ← Decoder.recordFields conditionSpecFields n with
  | [condset, share, allowed, commands, targeted] =>
    return {
      condset := ← Decoder.required .text condset
      weight := ← Decoder.required weight share
      allowList := ← Decoder.defaulted .text "" allowed
      commands := ← Decoder.defaulted (.listOf .text) [] commands
      users := ← Decoder.defaulted users .empty targeted }
  | _ => none

/-- A condition of a dataset file as a node. -/
def ofConditionSpec (c : ConditionSpec) : Node :=
  .record (conditionSpecFields.zip
    [.text c.condset, .ofNat c.weight, .text c.allowList, ofStrings c.commands, ofUsers c.users])

/-- The fields of an experiment in a dataset file. -/
def experimentSpecFields : List String := draftFields ++ ["conditions"]

/-- An experiment of a dataset file. -/
def experimentSpec : Decoder ExperimentSpec := fun n => do
  match ← Decoder.recordFields experimentSpecFields n with
  | [name, shortname, scopeName, enabled, adminEnabled, numericOffset, conditions] =>
    return {
      name := ← Decoder.defaulted (.optional .text) none name
      shortname := ← Decoder.required .text shortname
      scope := ← Decoder.required scope scopeName
      enabled := ← Decoder.defaulted .truth false enabled
      adminEnabled := ← Decoder.defaulted .truth false adminEnabled
      numericOffset := ← Decoder.defaulted offset 0 numericOffset
      conditions := ← Decoder.defaulted (.listOf conditionSpec) [] conditions }
  | _ => none

/-- An experiment of a dataset file as a node. -/
def ofExperimentSpec (e : ExperimentSpec) : Node :=
  .record (experimentSpecFields.zip
    [ofOptional .text e.name, .text e.shortname, .text e.scope.name, .bool e.enabled,
      .bool e.adminEnabled, .ofNat e.numericOffset, .list (e.conditions.map ofConditionSpec)])

/-- A dataset file. -/
def datasetFile : Decoder DatasetFile := fun n => do
  match ← Decoder.recordFields ["experiments"] n with
  | [experiments] => return ⟨← Decoder.defaulted (.listOf experimentSpec) [] experiments⟩
  | _ => none

/-- A dataset file as a node. -/
def ofDatasetFile (f : DatasetFile) : Node :=
  .record [("experiments", .list (f.experiments.map ofExperimentSpec))]

end SplitTest.Document

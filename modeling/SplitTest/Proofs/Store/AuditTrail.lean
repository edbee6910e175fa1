import SplitTest.Proofs.Hook.Work
import SplitTest.Proofs.Host.Assignment
import SplitTest.Proofs.Store.History

/-!
# The audit trail

A history writes conditions (`Manager.write?`), and the audit log is what these writes
record, one after another (`Manager.audit_through`).  Every condition of the catalog is what
its last write made of it (`Catalog.Written`), at the weight and with the commands that this
write recorded.

So whatever a hook assigns was recorded before (`audit_law`): what a hook carries out are
commands of stored conditions, and a stored condition has the commands of its last write.
-/

namespace SplitTest.Store

/-! ## Writes -/

/-- What the log says of an assignment that a condition is to make. -/
def AuditEntry.ofAssignment (experiment : String) (weight : Nat) (a : Assignment) : AuditEntry :=
  match a.key with
  | .site name => ⟨name, "", a.value, "core-experiment:" ++ Text.ofNat weight, experiment⟩
  | .plugin p name => ⟨name, "", a.value, p ++ "-experiment:" ++ Text.ofNat weight, experiment⟩

theorem AuditEntry.ofCommands_eq (experiment : String) (weight : Nat) (commands : CommandList) :
    ofCommands experiment weight commands =
      commands.assignments.map (ofAssignment experiment weight) := by
  have hcommand (cmd : Command) : ofCommand? experiment weight cmd =
      (Assignment.ofCommand? cmd).map (ofAssignment experiment weight) := by
    cases cmd <;> rfl
  rw [ofCommands, CommandList.parsed, CommandList.assignments, List.filterMap_map,
    List.map_filterMap]
  refine List.filterMap_congr fun line _ => ?_
  dsimp only [Function.comp_apply]
  rw [Assignment.ofLine?]
  cases Command.parse line with
  | error fault => rfl
  | ok cmd => exact hcommand cmd

/-- A condition was written: its experiment as it was then, its number, and what was given
for it. -/
structure ConditionWrite where
  owner : Experiment
  id : ConditionId
  input : ConditionInput

namespace ConditionWrite

/-- The condition that was written. -/
def condition (w : ConditionWrite) : Condition := w.input.condition w.id w.owner.id

/-- What is recorded of a write: the assignments that its commands are to make, in order. -/
def entries (w : ConditionWrite) : List AuditEntry :=
  w.input.commandList.assignments.map (.ofAssignment w.owner.shortname w.input.weight)

/-- The last of some writes that is of its condition. -/
def IsLast (w : ConditionWrite) (ws : List ConditionWrite) : Prop :=
  ∃ before after, ws = before ++ w :: after ∧ ∀ v ∈ after, v.id ≠ w.id

variable {w v : ConditionWrite} {ws : List ConditionWrite}

theorem isLast_concat (w : ConditionWrite) (ws : List ConditionWrite) : w.IsLast (ws ++ [w]) :=
  ⟨ws, [], rfl, by rintro v ⟨⟩⟩

theorem IsLast.concat (h : w.IsLast ws) (hv : v.id ≠ w.id) : w.IsLast (ws ++ [v]) := by
  obtain ⟨before, after, rfl, hafter⟩ := h
  refine ⟨before, after ++ [v], List.append_assoc .., fun u hu => ?_⟩
  rcases List.mem_append.mp hu with hu | hu
  · exact hafter u hu
  · rw [List.mem_singleton.mp hu]
    exact hv

theorem IsLast.mem (h : w.IsLast ws) : w ∈ ws := by
  obtain ⟨before, after, rfl, -⟩ := h
  exact List.mem_append_right before List.mem_cons_self

end ConditionWrite

namespace ManagerCall

/-- Whether a call is to write a condition. -/
def writesCondition : ManagerCall → Bool
  | addCondition .. | updateCondition .. => true
  | _ => false

end ManagerCall

namespace Manager

/-- What a call with an answer writes. -/
def written? (m : Manager) : ManagerCall → ManagerAnswer → Option ConditionWrite
  | .addCondition id input, .condition new => do
    let owner ← m.tables.experiment? id
    return ⟨owner, new, input⟩
  | .updateCondition id previous input, .done => do
    let owner ← m.tables.experiment? id
    let current ← m.tables.conditionNamed? id previous
    return ⟨owner, current.id, input⟩
  | _, _ => none

/-- What a step writes. -/
def write? (m : Manager) : ManagerStep → Option ConditionWrite
  | .call call => (call.action.runOn m).1.toOption.bind (m.written? call)
  | _ => none

/-- A step is a call to write a condition, and succeeds. -/
def Writes (m : Manager) : ManagerStep → Prop
  | .call call => call.writesCondition = true ∧ ∃ answer, (call.action.runOn m).1 = .ok answer
  | _ => False

/-- Only a call to write a condition can write. -/
theorem write?_eq_none {m : Manager} {s : ManagerStep}
    (hs : ¬∃ call, s = .call call ∧ call.writesCondition = true) : m.write? s = none := by
  have hwritten {call : ManagerCall} (hcall : ¬call.writesCondition = true)
      (answer : ManagerAnswer) : m.written? call answer = none := by
    cases call with
    | addCondition id input => exact absurd rfl hcall
    | updateCondition id previous input => exact absurd rfl hcall
    | _ => rfl
  cases s with
  | call call =>
    rw [write?, Option.bind_eq_none_iff]
    exact fun answer _ => hwritten (fun hcall => hs ⟨call, rfl, hcall⟩) answer
  | query q => rfl
  | hook o hook => rfl

/-! ## The log of a step -/

theorem audit_invalidate (m : Manager) : m.invalidate.audit = m.audit := rfl

theorem sink_record (m : Manager) (entry : AuditEntry) : (m.record entry).sink = m.sink := by
  rw [record]
  split <;> rfl

theorem audit_record {m : Manager} (hsink : m.sink = .log) (entry : AuditEntry) :
    (m.record entry).audit = m.audit ++ [entry] := by
  rw [record, hsink]

theorem audit_foldl_record (entries : List AuditEntry) : ∀ {m : Manager}, m.sink = .log →
    (entries.foldl record m).audit = m.audit ++ entries := by
  induction entries with
  | nil =>
    intro m _
    exact (List.append_nil m.audit).symm
  | cons entry entries ih =>
    intro m hsink
    rw [List.foldl_cons, ih ((sink_record m entry).trans hsink), audit_record hsink,
      List.append_assoc]
    rfl

theorem sink_frame : WriteFrame fun m m' => m'.sink = m.sink where
  trans := fun hab hbc => hbc.trans hab
  aside := fun _ _ _ _ => rfl
  serve := fun _ => rfl

theorem audit_frame : WriteFrame fun m m' => m'.audit = m.audit where
  trans := fun hab hbc => hbc.trans hab
  aside := fun _ _ _ _ => rfl
  serve := fun _ => rfl

theorem sink_through {m : Manager} (steps : List ManagerStep) :
    (m.through steps).sink = m.sink := by
  induction steps using List.reverseRecOn with
  | nil => rfl
  | append_singleton steps s ih =>
    rw [through_concat]
    exact (step_within sink_frame sink_record s).trans ih

namespace Serves
variable {m : Manager} {c : Catalog}

/-- A call that fails writes nothing and records nothing. -/
theorem write?_of_error (h : m.Serves c) {call : ManagerCall} {e : StoreError}
    (he : c.step call = .error e) :
    m.write? (.call call) = none ∧ (m.step (.call call)).audit = m.audit := by
  constructor
  · rw [write?, (h.step call).1, he]
    rfl
  · have hcall : call ≠ .snapshot := by
      rintro rfl
      cases he
    have hfollows := h.follows hcall
    rw [he] at hfollows
    have hrun : call.action.runOn m = (.error e, m.invalidate) := hfollows
    rw [Manager.step, hrun]
    rfl

/-- The addition of a condition writes it, and records what it is to assign. -/
theorem write?_addCondition (h : m.Serves c) {id : ExperimentId} {input : ConditionInput}
    {x : Listing} (hx : c.numbered? id = some x) (hfree : x.condition? input.condset = none) :
    let w : ConditionWrite := ⟨x.experiment, ⟨(c.lastCondition + 1 : Nat)⟩, input⟩
    m.write? (.call (.addCondition id input)) = some w ∧
      (m.sink = .log → (m.step (.call (.addCondition id input))).audit = m.audit ++ w.entries) := by
  obtain rfl := h.catalog
  rw [h.managed.catalog_numbered?, Option.map_eq_some_iff] at hx
  obtain ⟨owner, howner, rfl⟩ := hx
  obtain ⟨-, rfl⟩ := h.managed.experiment?_eq_some_iff.mp howner
  rw [Tables.listing_condition?, Option.map_eq_none_iff] at hfree
  have hrun := Action.runOn_bind_of_ok (f := fun new => pure (ManagerAnswer.condition new))
    (Action.runOn_addCondition h.outages howner hfree)
  constructor
  · show (((_ >>= _ : Action ManagerAnswer).runOn m).1.toOption.bind _) = _
    rw [hrun, Action.runOn_pure, Except.toOption, Option.bind_some, written?, howner]
    rfl
  · intro hsink
    show ((_ >>= _ : Action ManagerAnswer).runOn m).2.audit = _
    rw [hrun, Action.runOn_pure, audit_invalidate, audit_foldl_record _ (by exact hsink),
      AuditEntry.ofCommands_eq]
    rfl

/-- So does the update of a condition, which keeps its number. -/
theorem write?_updateCondition (h : m.Serves c) {id : ExperimentId} {previous : String}
    {input : ConditionInput} {x : Listing} {z : Condition} (hx : c.numbered? id = some x)
    (hz : x.condition? previous = some z)
    (hfree : input.condset = previous ∨ x.condition? input.condset = none) :
    let w : ConditionWrite := ⟨x.experiment, z.id, input⟩
    m.write? (.call (.updateCondition id previous input)) = some w ∧
      (m.sink = .log →
        (m.step (.call (.updateCondition id previous input))).audit = m.audit ++ w.entries) := by
  obtain rfl := h.catalog
  rw [h.managed.catalog_numbered?, Option.map_eq_some_iff] at hx
  obtain ⟨owner, howner, rfl⟩ := hx
  obtain ⟨-, rfl⟩ := h.managed.experiment?_eq_some_iff.mp howner
  rw [Tables.listing_condition?, Option.map_eq_some_iff] at hz
  obtain ⟨r, hr, rfl⟩ := hz
  rw [Tables.listing_condition?, Option.map_eq_none_iff] at hfree
  have hrun := Action.runOn_bind_of_ok (f := fun _ => pure ManagerAnswer.done)
    (Action.runOn_updateCondition h.outages h.managed howner hr hfree)
  constructor
  · show (((_ >>= _ : Action ManagerAnswer).runOn m).1.toOption.bind _) = _
    rw [hrun, Action.runOn_pure, Except.toOption, Option.bind_some, written?, howner, hr]
    rfl
  · intro hsink
    show ((_ >>= _ : Action ManagerAnswer).runOn m).2.audit = _
    rw [hrun, Action.runOn_pure, audit_invalidate, audit_foldl_record _ (by exact hsink),
      AuditEntry.ofCommands_eq]
    rfl

/-- **A step writes and records, or does neither.**  It writes if it is a call to write a
condition that succeeds. -/
theorem write_cases (h : m.Serves c) (s : ManagerStep) :
    (m.write? s = none ∧ ¬m.Writes s ∧ (m.step s).audit = m.audit) ∨
      ∃ w, m.write? s = some w ∧ m.Writes s ∧
        (m.sink = .log → (m.step s).audit = m.audit ++ w.entries) := by
  by_cases hs : ∃ call, s = .call call ∧ call.writesCondition = true
  · obtain ⟨call, rfl, hcall⟩ := hs
    cases hstep : c.step call with
    | error e =>
      obtain ⟨hwrite, haudit⟩ := h.write?_of_error hstep
      refine Or.inl ⟨hwrite, ?_, haudit⟩
      rw [Writes, (h.step call).1, hstep]
      rintro ⟨-, answer, ⟨⟩⟩
    | ok r =>
      obtain ⟨answer, c'⟩ := r
      have hwrites : m.Writes (.call call) := by
        rw [Writes, (h.step call).1, hstep]
        exact ⟨hcall, answer, rfl⟩
      cases Catalog.does_of_step hstep with
      | addCondition hx hfree =>
        obtain ⟨hwrite, haudit⟩ := h.write?_addCondition hx hfree
        exact Or.inr ⟨_, hwrite, hwrites, haudit⟩
      | updateCondition hx hz hfree =>
        obtain ⟨hwrite, haudit⟩ := h.write?_updateCondition hx hz hfree
        exact Or.inr ⟨_, hwrite, hwrites, haudit⟩
      | _ => cases hcall
  · refine Or.inl ⟨write?_eq_none hs, fun hwrites => ?_, ?_⟩
    · cases s with
      | call call => exact hs ⟨call, rfl, hwrites.1⟩
      | query q => exact hwrites
      | hook o hook => exact hwrites
    · exact step_within_of_no_write audit_frame (fun id input hadd => hs ⟨_, hadd, rfl⟩)
        fun id previous input hupdate => hs ⟨_, hupdate, rfl⟩

theorem isSome_write?_iff (h : m.Serves c) (s : ManagerStep) :
    (m.write? s).isSome = true ↔ m.Writes s := by
  rcases h.write_cases s with ⟨hwrite, hnot, -⟩ | ⟨w, hwrite, hwrites, -⟩
  · rw [hwrite]
    exact iff_of_false Bool.false_ne_true hnot
  · rw [hwrite]
    exact iff_of_true rfl hwrites

/-- **A step adds to the log what it writes**, and nothing else. -/
theorem audit_step (h : m.Serves c) (hsink : m.sink = .log) (s : ManagerStep) :
    (m.step s).audit = m.audit ++ (m.write? s).toList.flatMap ConditionWrite.entries := by
  rcases h.write_cases s with ⟨hwrite, -, haudit⟩ | ⟨w, hwrite, -, haudit⟩
  · rw [hwrite, haudit]
    exact (List.append_nil m.audit).symm
  · rw [hwrite, haudit hsink]
    exact congrArg _ (List.append_nil _).symm

end Serves

/-- **The log is what the writes of a history recorded**, one after another. -/
theorem audit_through (lifetime : Option Nat) (overlap : Bool) (steps : List ManagerStep) :
    let m := fresh lifetime .log overlap
    (m.through steps).audit = (m.collect write? steps).flatMap ConditionWrite.entries := by
  intro m
  induction steps using List.reverseRecOn with
  | nil => rfl
  | append_singleton steps s ih =>
    have hserves := serves_through lifetime .log overlap steps
    rw [through_concat, hserves.audit_step (sink_through steps), ih, collect_concat,
      List.flatMap_append]

end Manager

/-! ## What was written last -/

namespace Tables
variable {t : Tables}

/-- The conditions of the catalog are those that are stored. -/
theorem exists_record {y : Listing} {z : Condition} (hy : y ∈ t.catalog.listings)
    (hz : z ∈ y.conditions) :
    ∃ r ∈ t.conditions, r.content = z ∧ r.experimentId = y.experiment.id := by
  obtain ⟨x, -, rfl⟩ := List.mem_map.mp hy
  obtain ⟨r, hr, rfl⟩ := List.mem_map.mp hz
  obtain ⟨hmem, howner⟩ := mem_conditionsOf_iff.mp hr
  exact ⟨r, hmem, rfl, howner⟩

/-- Their numbers were given out. -/
theorem Managed.id_le (h : t.Managed) {y : Listing} {z : Condition}
    (hy : y ∈ t.catalog.listings) (hz : z ∈ y.conditions) : z.id.value ≤ t.lastCondition := by
  obtain ⟨r, hr, rfl, -⟩ := exists_record hy hz
  exact h.condition_le hr

/-- Conditions of one number are of one experiment. -/
theorem Managed.owner_eq (h : t.Managed) {y y' : Listing} {z z' : Condition}
    (hy : y ∈ t.catalog.listings) (hz : z ∈ y.conditions) (hy' : y' ∈ t.catalog.listings)
    (hz' : z' ∈ y'.conditions) (hid : z.id = z'.id) : y.experiment.id = y'.experiment.id := by
  obtain ⟨r, hr, rfl, howner⟩ := exists_record hy hz
  obtain ⟨r', hr', rfl, howner'⟩ := exists_record hy' hz'
  have hsame : r = r' := List.inj_on_of_nodup_map h.conditionIds hr hr' hid
  rw [← howner, ← howner', hsame]

end Tables

/-- Every condition is what its last write made of it. -/
def Catalog.Written (c : Catalog) (ws : List ConditionWrite) : Prop :=
  ∀ y ∈ c.listings, ∀ z ∈ y.conditions, ∃ w : ConditionWrite, w.IsLast ws ∧ z = w.condition

theorem Catalog.mem_edit {c : Catalog} {id : ExperimentId} {f : Listing → Listing} {y' : Listing}
    (h : y' ∈ (c.edit id f).listings) :
    (∃ y ∈ c.listings, y.experiment.id = id ∧ y' = f y) ∨
      y' ∈ c.listings ∧ y'.experiment.id ≠ id := by
  obtain ⟨y, hy, hf⟩ := List.mem_map.mp h
  by_cases hid : y.experiment.id = id
  · rw [if_pos hid] at hf
    exact Or.inl ⟨y, hy, hid, hf.symm⟩
  · rw [if_neg hid] at hf
    rw [← hf]
    exact Or.inr ⟨hy, hid⟩

namespace Catalog.Written
variable {c : Catalog} {ws : List ConditionWrite}

/-- A catalog with no other conditions is what it was written to be as well. -/
theorem of_subset (h : c.Written ws) {c' : Catalog}
    (hsub : ∀ y' ∈ c'.listings, ∃ y ∈ c.listings, y'.conditions ⊆ y.conditions) :
    c'.Written ws := by
  intro y' hy' z hz
  obtain ⟨y, hy, hconditions⟩ := hsub y' hy'
  exact h y hy z (hconditions hz)

/-- So is one where only conditions of a listing were left out. -/
theorem edit (h : c.Written ws) {id : ExperimentId} {f : Listing → Listing}
    (hf : ∀ y, (f y).conditions ⊆ y.conditions) : (c.edit id f).Written ws := by
  refine h.of_subset fun y' hy' => ?_
  rcases mem_edit hy' with ⟨y, hy, -, rfl⟩ | ⟨hy, -⟩
  · exact ⟨y, hy, hf y⟩
  · exact ⟨y', hy, fun _ hz => hz⟩

/-- A write of another condition leaves what was written of one. -/
theorem concat (h : c.Written ws) {y : Listing} {z : Condition} (hy : y ∈ c.listings)
    (hz : z ∈ y.conditions) {v : ConditionWrite} (hv : v.id ≠ z.id) :
    ∃ w : ConditionWrite, w.IsLast (ws ++ [v]) ∧ z = w.condition := by
  obtain ⟨w, hlast, rfl⟩ := h y hy z hz
  exact ⟨w, hlast.concat hv, rfl⟩

variable {t : Tables}

theorem addCondition (h : t.catalog.Written ws) (ht : t.Managed) {id : ExperimentId}
    {input : ConditionInput} {x : Listing} (hx : t.catalog.numbered? id = some x) :
    Catalog.Written { t.catalog.edit id fun y =>
        { y with conditions := y.conditions ++
            [input.condition ⟨(t.lastCondition + 1 : Nat)⟩ id] } with
      lastCondition := t.lastCondition + 1 }
      (ws ++ [⟨x.experiment, ⟨(t.lastCondition + 1 : Nat)⟩, input⟩]) := by
  have hid : x.experiment.id = id := by simpa using List.find?_some hx
  intro y' hy' z hz
  -- the conditions that were there have smaller numbers
  have hold : ∀ y ∈ t.catalog.listings, z ∈ y.conditions →
      ∃ w : ConditionWrite,
        w.IsLast (ws ++ [⟨x.experiment, ⟨(t.lastCondition + 1 : Nat)⟩, input⟩]) ∧
          z = w.condition := by
    intro y hy hz
    refine h.concat hy hz fun hsame => ?_
    have hle := ht.id_le hy hz
    have hnew : ((t.lastCondition + 1 : Nat) : Int) = z.id.value :=
      congrArg ConditionId.value hsame
    omega
  rcases mem_edit hy' with ⟨y, hy, -, rfl⟩ | ⟨hy, -⟩
  · rcases List.mem_append.mp hz with hz | hz
    · exact hold y hy hz
    · rw [List.mem_singleton.mp hz, ← hid]
      exact ⟨_, ConditionWrite.isLast_concat _ ws, rfl⟩
  · exact hold y' hy hz

theorem updateCondition (h : t.catalog.Written ws) (ht : t.Managed) {id : ExperimentId}
    {previous : String} {input : ConditionInput} {x : Listing} {z₀ : Condition}
    (hx : t.catalog.numbered? id = some x) (hz₀ : x.condition? previous = some z₀) :
    (t.catalog.edit id fun y => { y with conditions := y.conditions.map fun w =>
        if w.id = z₀.id then input.condition z₀.id id else w }).Written
      (ws ++ [⟨x.experiment, z₀.id, input⟩]) := by
  have hid : x.experiment.id = id := by simpa using List.find?_some hx
  intro y' hy' z hz
  rcases mem_edit hy' with ⟨y, hy, -, rfl⟩ | ⟨hy, hne⟩
  · obtain ⟨z', hz', hreplaced⟩ := List.mem_map.mp hz
    by_cases hsame : z'.id = z₀.id
    · rw [if_pos hsame] at hreplaced
      rw [← hreplaced, ← hid]
      exact ⟨_, ConditionWrite.isLast_concat _ ws, rfl⟩
    · rw [if_neg hsame] at hreplaced
      rw [← hreplaced]
      exact h.concat hy hz' fun hsame' => hsame hsame'.symm
  · -- a condition of another experiment has another number
    refine h.concat hy hz fun hsame => hne ?_
    have howner := ht.owner_eq hy hz (List.mem_of_find?_eq_some hx)
      (List.mem_of_find?_eq_some hz₀) hsame.symm
    exact howner.trans hid

end Catalog.Written

/-- **Through a step every condition stays what its last write made of it.** -/
theorem Manager.Serves.written {m : Manager} {c : Catalog} (h : m.Serves c)
    {ws : List ConditionWrite} (hw : c.Written ws) (s : ManagerStep) :
    (c.follow s).Written (ws ++ (m.write? s).toList) := by
  have hkeeps {c' : Catalog} (hc' : c'.Written ws) (hnone : m.write? s = none) :
      c'.Written (ws ++ (m.write? s).toList) := by
    rw [hnone, Option.toList_none, List.append_nil]
    exact hc'
  cases s with
  | query q => exact hkeeps hw rfl
  | hook o hook => exact hkeeps hw rfl
  | call call =>
    show (c.next call).Written _
    rw [Catalog.next]
    cases hstep : c.step call with
    | error e => exact hkeeps hw (h.write?_of_error hstep).1
    | ok r =>
      obtain ⟨answer, c'⟩ := r
      have hsilent (hcall : call.writesCondition = false) : m.write? (.call call) = none := by
        refine Manager.write?_eq_none ?_
        rintro ⟨_, ⟨rfl⟩, hwrites⟩
        rw [hcall] at hwrites
        cases hwrites
      show c'.Written _
      cases Catalog.does_of_step hstep with
      | addExperiment =>
        refine hkeeps (fun y hy z hz => ?_) (hsilent rfl)
        rcases List.mem_append.mp hy with hy | hy
        · exact hw y hy z hz
        · -- the new experiment has no conditions
          rw [List.mem_singleton.mp hy] at hz
          cases hz
      | updateExperiment => exact hkeeps (hw.edit fun y => fun _ hz => hz) (hsilent rfl)
      | deleteExperiment =>
        refine hkeeps (hw.of_subset fun y hy => ?_) (hsilent rfl)
        exact ⟨y, List.mem_of_mem_filter hy, fun _ hz => hz⟩
      | addCondition hx hfree =>
        rw [(h.write?_addCondition hx hfree).1]
        obtain rfl := h.catalog
        exact hw.addCondition h.managed hx
      | updateCondition hx hz hfree =>
        rw [(h.write?_updateCondition hx hz hfree).1]
        obtain rfl := h.catalog
        exact hw.updateCondition h.managed hx hz
      | deleteCondition =>
        exact hkeeps (hw.edit fun y => List.filter_subset_self y.conditions) (hsilent rfl)
      | deleteAllConditions =>
        exact hkeeps (hw.edit fun y => List.nil_subset y.conditions) (hsilent rfl)
      | snapshot => exact hkeeps hw (hsilent rfl)
      | invalidate => exact hkeeps hw (hsilent rfl)

theorem Manager.written_through (lifetime : Option Nat) (sink : AuditSink) (overlap : Bool)
    (steps : List ManagerStep) :
    let m := fresh lifetime sink overlap
    (m.through steps).tables.catalog.Written (m.collect write? steps) := by
  intro m
  induction steps using List.reverseRecOn with
  | nil => rintro y ⟨⟩
  | append_singleton steps s ih =>
    have hserves := serves_through lifetime sink overlap steps
    rw [through_concat, collect_concat, (hserves.follow s).catalog]
    exact hserves.written ih s

/-! ## What hooks assign -/

/-- Every list of a batch is the commands of a condition that a firing tells of. -/
theorem exists_of_mem_batch {d : Dataset} {firings : List Firing} {part : String × CommandList}
    (h : part ∈ d.batch firings) :
    ∃ f ∈ firings, ∃ y ∈ Listing.ofDataset d, y.experiment.shortname = f.experiment ∧
      ∃ z ∈ y.conditions, z.condset = f.condset ∧ z.commands = part.2 := by
  obtain ⟨f, hf, hpart⟩ := List.mem_filterMap.mp h
  obtain ⟨l, hl, rfl⟩ := Option.map_eq_some_iff.mp hpart
  obtain ⟨z, hz, rfl⟩ := Option.map_eq_some_iff.mp hl
  obtain ⟨e, he, hz⟩ := Option.bind_eq_some_iff.mp hz
  obtain ⟨hmem, hshortname⟩ := Keyed.find?_eq_some_iff.mp he
  obtain ⟨hzmem, hcondset⟩ := Keyed.find?_eq_some_iff.mp hz
  exact ⟨f, hf, .ofEntry e, List.mem_map_of_mem hmem, hshortname, z, hzmem, hcondset, rfl⟩

/-- A condition is the one stored that a firing tells of. -/
structure Tables.Fired (t : Tables) (f : Firing) (x : Experiment) (r : ConditionRecord) : Prop where
  experiment : x ∈ t.experiments ∧ x.shortname = f.experiment
  condition : r ∈ t.conditions ∧ r.experimentId = x.id ∧ r.fields.condset = f.condset

namespace Manager.Serves
variable {m : Manager} {c : Catalog}

/-- A hook reads nothing but the catalog. -/
theorem listings_read (h : m.Serves c) {o : Occasion} {hook : HookCall} {d : Dataset}
    (hd : ((o.visit m).read Source.ofManager hook).1 = .ok d) :
    ∀ y ∈ Listing.ofDataset d, y ∈ c.listings := by
  rw [Visit.read] at hd
  split at hd
  · obtain ⟨d', events, m', hread, hlistings, -⟩ := h.ofManager
    have hsource : Source.ofManager (o.visit m).source = (.ok d', events, m') := hread
    rw [hsource] at hd
    obtain rfl := Except.ok.inj hd
    rw [hlistings]
    exact fun y hy => hy
  · -- the gate keeps the hook from reading
    obtain rfl := Except.ok.inj hd
    rintro y ⟨⟩

/-- **What a hook assigns, a stored condition is to assign** of which the report tells. -/
theorem exists_fired (h : m.Serves c) {o : Occasion} {hook : HookCall} {a : Assignment}
    (ha : a ∈ o.host.made ((o.visit m).batch Source.ofManager hook)) :
    ∃ report, ((o.visit m).call Source.ofManager hook).1 = .report report ∧
      ∃ f ∈ report.firings, ∃ x r, m.tables.Fired f x r ∧
        (∃ y ∈ c.listings, r.content ∈ y.conditions) ∧
        a ∈ r.content.commands.assignments := by
  obtain rfl := h.catalog
  obtain ⟨part, hpart, ha⟩ := Host.mem_assignments_of_mem_made ha
  rw [Visit.batch] at hpart
  split at hpart
  · next d report hd hanswer =>
    obtain ⟨f, hf, y, hy, hshortname, z, hz, hcondset, hcommands⟩ := exists_of_mem_batch hpart
    have hy := h.listings_read hd y hy
    obtain ⟨x, hx, rfl⟩ := List.mem_map.mp hy
    obtain ⟨r, hr, rfl, howner⟩ := Tables.exists_record hy hz
    refine ⟨report, hanswer, f, hf, x, r, ⟨⟨hx, hshortname⟩, hr, howner, hcondset⟩, ⟨_, hy, hz⟩, ?_⟩
    rw [hcommands]
    exact ha
  · cases hpart

end Manager.Serves

/-- **Nothing is assigned that was not recorded.**  Through any history of a new store's
manager the log is what the writes recorded, in order; a step adds to it what it writes, and
writes exactly if it is a call to add or to update a condition that succeeds.

Whatever happens next, a hook changes the configuration by assignments alone.  Each of them
is one that a stored condition is to make, of which the report tells, and the last write of
this condition recorded it: at the weight that the condition has now, and under the shortname
that its experiment had then. -/
theorem audit_law (lifetime : Option Nat) (overlap : Bool) (steps : List ManagerStep) :
    let m₀ := Manager.fresh lifetime .log overlap
    let m := m₀.through steps
    let writes := m₀.collect Manager.write? steps
    (m.audit = writes.flatMap ConditionWrite.entries ∧
      ∀ s, (m.step s).audit = m.audit ++ (m.write? s).toList.flatMap ConditionWrite.entries ∧
        ((m.write? s).isSome = true ↔ m.Writes s)) ∧
      ∀ (o : Occasion) (hook : HookCall),
        let made := o.host.made ((o.visit m).batch Source.ofManager hook)
        let called := (o.visit m).call Source.ofManager hook
        called.2.host.config = Host.assigned o.host.config made ∧
          ∀ a ∈ made, ∃ report, called.1 = .report report ∧ ∃ f ∈ report.firings,
            ∃ (x : Experiment) (r : ConditionRecord) (w : ConditionWrite),
              m.tables.Fired f x r ∧ w.IsLast writes ∧ r.decode = .ok w.condition ∧
              AuditEntry.ofAssignment w.owner.shortname r.fields.weight a ∈ w.entries ∧
              AuditEntry.ofAssignment w.owner.shortname r.fields.weight a ∈ m.audit := by
  intro m₀ m writes
  have hserves : m.Serves m.tables.catalog := Manager.serves_through lifetime .log overlap steps
  have haudit : m.audit = writes.flatMap ConditionWrite.entries :=
    Manager.audit_through lifetime overlap steps
  have hwritten : m.tables.catalog.Written writes :=
    Manager.written_through lifetime .log overlap steps
  refine ⟨⟨haudit, fun s => ?_⟩, fun o hook => ?_⟩
  · exact ⟨hserves.audit_step (Manager.sink_through steps) s, hserves.isSome_write?_iff s⟩
  intro made called
  refine ⟨?_, fun a ha => ?_⟩
  · rw [← Host.config_carryOut_eq]
    exact Visit.config_call
  · obtain ⟨report, hanswer, f, hf, x, r, hfired, ⟨y, hy, hz⟩, ha⟩ := hserves.exists_fired ha
    obtain ⟨w, hlast, hcontent⟩ := hwritten y hy _ hz
    have hentry : AuditEntry.ofAssignment w.owner.shortname r.fields.weight a ∈ w.entries := by
      have hweight : r.fields.weight = w.input.weight := congrArg Condition.weight hcontent
      rw [hcontent] at ha
      rw [hweight]
      exact List.mem_map_of_mem ha
    refine ⟨report, hanswer, f, hf, x, r, w, hfired, hlast, ?_, hentry, ?_⟩
    · rw [(hserves.managed.readable r hfired.condition.1).decode, hcontent]
    · rw [haudit]
      exact List.mem_flatMap_of_mem hlast.mem hentry

/-- A theme is tried out, and its experiment gets another shortname before it starts. -/
def themeHistory : List ManagerStep :=
  [.call (.addExperiment "Theme" "theme" .session (Fin.last 99)),
    .call (.addCondition ⟨1⟩ ⟨"dark", "", "CFG,theme,dark", 100, []⟩),
    .call (.updateExperiment "theme" ⟨"Look", "look", .session, true, false, 0⟩)]

/-- A user browses a site that sets nothing. -/
def browsing : Occasion := ⟨.standard, .browse false, default, .constant 1⟩

theorem theme_recorded :
    let m₀ := Manager.fresh none .log false
    let m := m₀.through themeHistory
    let made := browsing.host.made
      ((browsing.visit m).batch Source.ofManager (.evaluate .afterRequireLogin))
    made = [⟨.site "theme", "dark"⟩] ∧
      m.audit = [⟨"theme", "", "dark", "core-experiment:100", "theme"⟩] ∧
      ∃ (f : Firing) (x : Experiment) (r : ConditionRecord) (w : ConditionWrite),
        m.tables.Fired f x r ∧ w.IsLast (m₀.collect Manager.write? themeHistory) ∧
        r.decode = .ok w.condition ∧
        AuditEntry.ofAssignment w.owner.shortname r.fields.weight ⟨.site "theme", "dark"⟩ ∈
          m.audit := by
  intro m₀ m made
  have hmade : made = [⟨.site "theme", "dark"⟩] := by decide +kernel
  have haudit : m.audit = [⟨"theme", "", "dark", "core-experiment:100", "theme"⟩] := by
    decide +kernel
  refine ⟨hmade, haudit, ?_⟩
  have hmem : ⟨.site "theme", "dark"⟩ ∈ made := by
    rw [hmade]
    exact List.mem_cons_self
  obtain ⟨-, htraced⟩ := (audit_law none false themeHistory).2 browsing
    (.evaluate .afterRequireLogin)
  obtain ⟨-, -, f, -, x, r, w, hfired, hlast, hdecode, -, hlogged⟩ := htraced _ hmem
  exact ⟨f, x, r, w, hfired, hlast, hdecode, hlogged⟩

end SplitTest.Store

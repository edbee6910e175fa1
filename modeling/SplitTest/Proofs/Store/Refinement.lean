import SplitTest.Proofs.Keyed
import SplitTest.Proofs.Store.Operations

/-!
# A manager is a catalog

Whatever is asked of the manager of a new store, in whatever order, it answers as the
catalog does to which the same was done (`manager_refines_catalog`).  Tables, stored forms
and the cache cannot be seen from outside: reading the tables gives the listings of their
catalog (`Manager.Serves.load`), and a cached dataset has the listings that reading the
tables would give (`Manager.Serves.cached`), since everything that writes forgets it.
-/

namespace SplitTest.Store

namespace Tables
variable {t : Tables}

/-- The entries that tables are read as. -/
def entries (t : Tables) : List Entry :=
  t.experiments.map fun x => Entry.ofList x (t.listing x).conditions

theorem WellFormed.nodup_condsets (h : t.WellFormed) (x : Experiment) :
    ((t.listing x).conditions.map Condition.condset).Nodup := by
  have hmap : (t.listing x).conditions.map Condition.condset =
      (t.conditionsOf x.id).map fun r => r.fields.condset := by
    rw [listing, List.map_map]
    rfl
  rw [hmap]
  have hrecords : (t.conditionsOf x.id).Nodup :=
    (List.Nodup.of_map _ h.conditionIds).sublist List.filter_sublist
  refine hrecords.map_on fun r hr r' hr' hcondset => ?_
  obtain ⟨hmem, howner⟩ := mem_conditionsOf_iff.mp hr
  obtain ⟨hmem', howner'⟩ := mem_conditionsOf_iff.mp hr'
  exact List.inj_on_of_nodup_map h.condsets hmem hmem'
    (Prod.ext (howner.trans howner'.symm) hcondset)

/-- **Nothing is dropped when tables are read as a dataset**, since the keys are
distinct. -/
theorem WellFormed.listings_ofList (h : t.WellFormed) :
    Listing.ofDataset (.ofList t.entries) = t.catalog.listings := by
  have hnames : (t.entries.map Entry.shortname).Nodup := by
    rw [entries, List.map_map]
    exact h.shortnames
  rw [Listing.ofDataset, Keyed.items_ofList hnames, entries, List.map_map, catalog]
  refine List.map_congr_left fun x _ => ?_
  have hitems := Keyed.items_ofList (h.nodup_condsets x)
  exact congrArg (Listing.mk x) hitems

end Tables

/-! ## Reading the tables -/

namespace Action
variable {m : Manager}

theorem foldl_report (events : List Event) : ∀ m : Manager,
    events.foldl Manager.report m = { m with events := m.events ++ events } := by
  induction events with
  | nil =>
    intro m
    rw [List.append_nil]
    rfl
  | cons e events ih =>
    intro m
    rw [List.foldl_cons, ih, Manager.report, List.append_assoc, List.singleton_append]

theorem runOn_decodeAll (rs : List ConditionRecord) (h : ∀ r ∈ rs, r.Readable) :
    ∃ events, (decodeAll rs).runOn m =
      (.ok (rs.map ConditionRecord.content), { m with events := events }) := by
  refine ⟨m.events ++ (ConditionRecord.unreadableEntries rs).map Event.unreadableEntry, ?_⟩
  rw [decodeAll, runOn_bind_of_ok (runOn_alter _), foldl_report,
    ConditionRecord.decodeAll_of_readable h, runOn_check]

/-- Reading entries changes nothing but what was reported. -/
theorem runOn_loadEntries (xs : List Experiment) : ∀ m : Manager, m.outages = [] →
    (∀ r ∈ m.tables.conditions, r.Readable) →
      ∃ events, (loadEntries xs).runOn m =
        (.ok (xs.map fun x => Entry.ofList x (m.tables.listing x).conditions),
          { m with events := events }) := by
  induction xs with
  | nil => exact fun m _ _ => ⟨m.events, rfl⟩
  | cons x xs ih =>
    intro m ho hread
    have hask : (conditionsOf x.id).runOn m = (.ok (m.tables.conditionsOf x.id), m) :=
      runOn_ask ho _ _
    obtain ⟨events, hdecode⟩ := runOn_decodeAll (m := m) (m.tables.conditionsOf x.id)
      fun r hr => hread r (Tables.mem_conditionsOf_iff.mp hr).1
    obtain ⟨events', hrest⟩ := ih { m with events := events } ho hread
    refine ⟨events', ?_⟩
    rw [loadEntries, runOn_bind_of_ok hask, runOn_bind_of_ok hdecode, runOn_bind_of_ok hrest,
      runOn_pure]
    rfl

/-- Reading the dataset leaves the tables as they are, whoever overlaps it. -/
theorem runOn_loadDataset (ho : m.outages = []) (hread : ∀ r ∈ m.tables.conditions, r.Readable) :
    ∃ m', loadDataset.runOn m = (.ok (.ofList m.tables.entries), m') ∧
      m'.tables = m.tables ∧ m'.outages = m.outages := by
  have hask : (ask .experiments Tables.experiments).runOn m = (.ok m.tables.experiments, m) :=
    runOn_ask ho _ _
  have hexperiments : experiments.runOn m = (.ok m.tables.experiments,
      if m.overlap then { m.invalidate with overlap := false } else m) := by
    rw [experiments, runOn_bind_of_ok hask, interfere, runOn_bind_of_ok (runOn_alter _),
      runOn_pure]
  -- whoever overlaps the reading touches the cache alone
  generalize hm' : (if m.overlap then { m.invalidate with overlap := false } else m) = m'
    at hexperiments
  have hsame : m'.tables = m.tables ∧ m'.outages = m.outages := by
    rw [← hm']
    split <;> exact ⟨rfl, rfl⟩
  obtain ⟨events, hload⟩ := runOn_loadEntries m.tables.experiments m' (hsame.2.trans ho)
    (by rw [hsame.1]; exact hread)
  refine ⟨{ m' with events := events }, ?_, hsame⟩
  rw [loadDataset, runOn_bind_of_ok hexperiments, runOn_bind_of_ok hload, runOn_pure, hsame.1]
  rfl

theorem runOn_snapshot_of_some {d : Dataset} (h : m.cache.entry = some d) :
    snapshot.runOn m = (.ok d, m) := by
  simp only [snapshot, runOn, ExceptT.run_mk, StateT.run, h]

theorem runOn_snapshot_of_none {d : Dataset} {m' : Manager} (h : m.cache.entry = none)
    (hload : loadDataset.runOn m = (.ok d, m')) :
    ∃ event, snapshot.runOn m =
      (.ok d, (m'.keep (m'.cache.settle m.cache.generation d).2).report event) := by
  rw [runOn] at hload
  simp only [snapshot, runOn, ExceptT.run_mk, StateT.run, h] at hload ⊢
  rw [hload]
  exact ⟨_, rfl⟩

end Action

/-- A dataset that is loaded is kept or not, and nothing else is. -/
theorem Cache.entry_settle {α : Type} {c : Cache α} {started : Nat} {a b : α}
    (h : (c.settle started a).2.entry = some b) : b = a := by
  rw [Cache.settle] at h
  split at h
  · exact (Option.some.inj h).symm
  · cases h

theorem Manager.entry_keep {m : Manager} {cache : Cache Dataset} {d : Dataset}
    (h : (m.keep cache).cache.entry = some d) : cache.entry = some d := by
  have hkeep : (m.keep cache).cache =
      if m.lifetime = some 0 then { cache with entry := none } else cache := rfl
  rw [hkeep] at h
  split at h
  · cases h
  · exact h

/-- An operation follows what it did before it turns its answer into another. -/
theorem Action.Follows.answer {α β : Type} {act : Action α} {m : Manager}
    {step : Except StoreError (α × Catalog)} (h : act.Follows m step) (answer : α → β) :
    (act >>= fun a => pure (answer a)).Follows m (step.map fun r => (answer r.1, r.2)) := by
  cases step with
  | error e => exact Action.runOn_bind_of_error h
  | ok r =>
    obtain ⟨tables, audit, events, hrun, ht, hc⟩ := h
    refine ⟨tables, audit, events, ?_, ht, hc⟩
    rw [Action.runOn_bind_of_ok hrun, Action.runOn_pure]

/-! ## Managers and catalogs -/

/-- A manager stands for a catalog: its store is in order, its tables are those of the
catalog, and what it has cached is the dataset of the catalog. -/
structure Manager.Serves (m : Manager) (c : Catalog) : Prop where
  /-- No call of the store is out of order. -/
  outages : m.outages = []
  /-- The tables are in good order. -/
  managed : m.tables.Managed
  /-- They stand for the catalog. -/
  catalog : m.tables.catalog = c
  /-- So does the cached dataset. -/
  cached : ∀ d, m.cache.entry = some d → Listing.ofDataset d = c.listings

namespace Manager.Serves
variable {m : Manager} {c : Catalog}

/-- A manager that forgot its cache serves what its tables stand for. -/
theorem of_invalidate (ho : m.outages = []) (ht : m.tables.Managed)
    (hc : m.tables.catalog = c) : m.invalidate.Serves c where
  outages := ho
  managed := ht
  catalog := hc
  cached := by rintro d ⟨⟩

/-- **A snapshot is the dataset of the catalog**, cached or not, and looking at it changes
nothing that can be seen. -/
theorem snapshot (h : m.Serves c) :
    ∃ d m', Action.snapshot.runOn m = (.ok d, m') ∧ Listing.ofDataset d = c.listings ∧
      m'.Serves c := by
  cases hentry : m.cache.entry with
  | some d =>
    exact ⟨d, m, Action.runOn_snapshot_of_some hentry, h.cached d hentry, h⟩
  | none =>
    obtain ⟨m', hload, htables, ho⟩ := Action.runOn_loadDataset h.outages h.managed.readable
    obtain ⟨event, hsnapshot⟩ := Action.runOn_snapshot_of_none hentry hload
    have hd : Listing.ofDataset (.ofList m.tables.entries) = c.listings := by
      rw [h.managed.listings_ofList, h.catalog]
    refine ⟨_, _, hsnapshot, hd, ho.trans h.outages, ?_, ?_, ?_⟩
    · show m'.tables.Managed
      rw [htables]
      exact h.managed
    · show m'.tables.catalog = c
      rw [htables]
      exact h.catalog
    · intro d hkept
      rw [Cache.entry_settle (Manager.entry_keep hkept)]
      exact hd

/-- **Every call that may write follows the catalog.** -/
theorem follows (h : m.Serves c) {call : ManagerCall} (hcall : call ≠ .snapshot) :
    call.action.Follows m (c.step call) := by
  have ho := h.outages
  have ht := h.managed
  obtain rfl := h.catalog
  cases call with
  | addExperiment name shortname scope offset =>
    have hoffset : (offset : Nat) ≤ 99 := by
      have hlt := offset.isLt
      omega
    exact (Action.follows_addExperiment ho ht name shortname scope hoffset).answer
      ManagerAnswer.experiment
  | updateExperiment previous u =>
    exact (Action.follows_updateExperiment ho ht previous u).answer fun _ => ManagerAnswer.done
  | deleteExperiment shortname =>
    exact (Action.follows_deleteExperiment ho ht shortname).answer fun _ => ManagerAnswer.done
  | addCondition id input =>
    exact (Action.follows_addCondition ho ht id input).answer ManagerAnswer.condition
  | updateCondition id previous input =>
    exact (Action.follows_updateCondition ho ht id previous input).answer
      fun _ => ManagerAnswer.done
  | deleteCondition id condset =>
    exact (Action.follows_deleteCondition ho ht id condset).answer fun _ => ManagerAnswer.done
  | deleteAllConditions id =>
    exact (Action.follows_deleteAllConditions ho ht id).answer fun _ => ManagerAnswer.done
  | snapshot => exact absurd rfl hcall
  | invalidate => exact ⟨m.tables, m.audit, m.events, rfl, ht, rfl⟩

/-- What follows a step that does not fail does not fail, and serves the catalog after it. -/
theorem run_of_follows (h : m.Serves c) {α : Type} {act : Action α} {a : α} {c' : Catalog}
    (hf : act.Follows m (.ok (a, c'))) : ∃ m', act.runOn m = (.ok a, m') ∧ m'.Serves c' := by
  obtain ⟨tables, audit, events, hrun, ht, hc⟩ := hf
  exact ⟨_, hrun, of_invalidate h.outages ht hc⟩

/-- What follows a step of the catalog answers as the step does, and what it leaves serves
the catalog after it. -/
theorem of_follows (h : m.Serves c) {call : ManagerCall}
    (hf : call.action.Follows m (c.step call)) :
    (call.action.runOn m).1 = (c.step call).map Prod.fst ∧
      (call.action.runOn m).2.Serves (c.next call) := by
  rw [Catalog.next]
  cases hstep : c.step call with
  | error e =>
    rw [hstep] at hf
    have hrun : call.action.runOn m = (.error e, m.invalidate) := hf
    rw [hrun]
    exact ⟨rfl, of_invalidate h.outages h.managed h.catalog⟩
  | ok r =>
    rw [hstep] at hf
    obtain ⟨m', hrun, hserves⟩ := h.run_of_follows hf
    rw [hrun]
    exact ⟨rfl, hserves⟩

/-- **Every call answers as the catalog does**, and leaves a manager that serves the
catalog after it. -/
theorem step (h : m.Serves c) (call : ManagerCall) :
    (call.action.runOn m).1 = (c.step call).map Prod.fst ∧
      (call.action.runOn m).2.Serves (c.next call) := by
  by_cases hcall : call = .snapshot
  · obtain ⟨d, m', hrun, hd, hserves⟩ := h.snapshot
    have haction : ManagerCall.snapshot.action.runOn m =
        (.ok (.listings (Listing.ofDataset d)), m') := by
      rw [ManagerCall.action, Action.runOn_bind_of_ok hrun, Action.runOn_pure]
    rw [hcall, haction, hd]
    exact ⟨rfl, hserves⟩
  · exact h.of_follows (h.follows hcall)

/-- A manager that serves a catalog serves it through any calls. -/
theorem after (h : m.Serves c) (calls : List ManagerCall) :
    (m.after calls).Serves (c.after calls) := by
  induction calls generalizing m c with
  | nil => exact h
  | cons call calls ih => exact ih (h.step call).2

/-- The manager of a new store serves the catalog without experiments. -/
theorem ofEmpty (lifetime : Option Nat) (sink : AuditSink) (overlap : Bool) :
    ({ Manager.empty with lifetime := lifetime, sink := sink, overlap := overlap } :
      Manager).Serves .empty where
  outages := rfl
  managed := Tables.managed_empty
  catalog := rfl
  cached := by rintro d ⟨⟩

end Manager.Serves

/-- **A manager is a catalog.**  After any calls of the manager of a new store, however long
its cache lasts and wherever its audit goes, a snapshot is the listings of the catalog to
which the same was done, in their order, and every further call answers as that catalog
does. -/
theorem manager_refines_catalog (lifetime : Option Nat) (sink : AuditSink) (overlap : Bool)
    (calls : List ManagerCall) :
    let m := { Manager.empty with lifetime := lifetime, sink := sink, overlap := overlap }.after
      calls
    let c := Catalog.empty.after calls
    (Action.snapshot.runOn m).1.map Listing.ofDataset = .ok c.listings ∧
      ∀ call : ManagerCall, (call.action.runOn m).1 = (c.step call).map Prod.fst := by
  intro m c
  have hserves : m.Serves c := (Manager.Serves.ofEmpty lifetime sink overlap).after calls
  refine ⟨?_, fun call => (hserves.step call).1⟩
  obtain ⟨d, m', hrun, hd, -⟩ := hserves.snapshot
  rw [hrun, ← hd]
  rfl

end SplitTest.Store

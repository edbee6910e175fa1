import SplitTest.Proofs.Store.Refinement

/-!
# What operations stay within

An operation stays within a relation if the manager that it leaves, whatever it answers, is
related to the one that it found (`Action.Within`).  What has to be known of the relation is
little.  For an operation that only reads it must be transitive and blind to the cache and
the events (`ReadFrame`); for one that writes it must also hold along every single call of
the store (`WriteFrame`).  So what the calls of the store preserve, each by itself, all
operations preserve, and so does everything that can happen to a manager
(`Manager.step_within`, in the histories of managers).
-/

namespace SplitTest.Store

/-- One call of the store turns tables into others. -/
inductive Tables.Yields (t : Tables) : Tables → Prop where
  | insertExperiment {d : ExperimentDraft} {id : ExperimentId} {t' : Tables} :
      t.insertExperiment d = .ok (id, t') → t.Yields t'
  | updateExperiment {x : Experiment} {t' : Tables} : t.updateExperiment x = .ok t' → t.Yields t'
  | deleteExperiment {id : ExperimentId} {t' : Tables} :
      t.deleteExperiment id = .ok t' → t.Yields t'
  | insertCondition {owner : ExperimentId} {fields : ConditionFields} {id : ConditionId}
      {t' : Tables} : t.insertCondition owner fields = .ok (id, t') → t.Yields t'
  | updateCondition {r : ConditionRecord} {t' : Tables} :
      t.updateCondition r = .ok t' → t.Yields t'
  | deleteCondition {id : ConditionId} {t' : Tables} : t.deleteCondition id = .ok t' → t.Yields t'
  | deleteConditions {owner : ExperimentId} : t.Yields (t.deleteConditions owner).2

/-- A relation that operations which only read stay within. -/
structure ReadFrame (R : Manager → Manager → Prop) : Prop where
  trans : ∀ {a b c : Manager}, R a b → R b c → R a c
  aside : ∀ (m : Manager) (cache : Cache Dataset) (overlap : Bool) (events : List Event),
    R m { m with cache := cache, overlap := overlap, events := events }

/-- A relation that operations which write, but record nothing, stay within. -/
structure WriteFrame (R : Manager → Manager → Prop) : Prop extends ReadFrame R where
  serve : ∀ {m : Manager} {t : Tables}, m.tables.Yields t → R m { m with tables := t }

theorem ReadFrame.refl {R : Manager → Manager → Prop} (hR : ReadFrame R) (m : Manager) : R m m :=
  hR.aside m m.cache m.overlap m.events

namespace Action
variable {α β : Type} {R : Manager → Manager → Prop} {act : Action α}

/-- Whatever an operation answers, it leaves a manager related to the one that it found. -/
def Within (R : Manager → Manager → Prop) (act : Action α) : Prop :=
  ∀ m, R m (act.runOn m).2

/-- A call of the store leaves everything as it was, or the tables that it answers with. -/
theorem runOn_serve_cases (c : StoreCall) (f : Tables → Except StoreError (α × Tables))
    (m : Manager) :
    ((serve c f).runOn m).2 = m ∨
      ∃ a t, f m.tables = .ok (a, t) ∧ ((serve c f).runOn m).2 = { m with tables := t } := by
  rw [runOn_serve_eq]
  split
  · exact Or.inl rfl
  · cases hf : f m.tables with
    | error e => exact Or.inl rfl
    | ok result => exact Or.inr ⟨result.1, result.2, rfl, rfl⟩

/-- So does one that is to change them. -/
theorem runOn_tell_cases (c : StoreCall) (f : Tables → Except StoreError Tables) (m : Manager) :
    ((tell c f).runOn m).2 = m ∨
      ∃ t, f m.tables = .ok t ∧ ((tell c f).runOn m).2 = { m with tables := t } := by
  rcases runOn_serve_cases c (fun t => (f t).map fun t' => ((), t')) m with h | ⟨a, t, ht, h⟩
  · exact Or.inl h
  · refine Or.inr ⟨t, ?_, h⟩
    cases hok : f m.tables with
    | error e =>
      rw [hok] at ht
      cases ht
    | ok t' =>
      rw [hok] at ht
      cases ht
      rfl

theorem runOn_snapshot_of_error {m m' : Manager} {e : StoreError} (h : m.cache.entry = none)
    (hload : loadDataset.runOn m = (.error e, m')) : snapshot.runOn m = (.error e, m') := by
  rw [runOn] at hload
  simp only [snapshot, runOn, ExceptT.run_mk, StateT.run, h] at hload ⊢
  rw [hload]

/-! ## Reading -/

section
variable (hR : ReadFrame R)
include hR

theorem within_bind {f : α → Action β} (hact : act.Within R) (hf : ∀ a, (f a).Within R) :
    (act >>= f).Within R := by
  intro m
  have hm := hact m
  rw [runOn_bind]
  cases hrun : act.runOn m with
  | mk r m' =>
    rw [hrun] at hm
    cases r with
    | error e => exact hm
    | ok a => exact hR.trans hm (hf a m')

theorem within_pure (a : α) : (pure a : Action α).Within R := fun m => hR.refl m

theorem within_fail (e : StoreError) : (fail e : Action α).Within R := fun m => hR.refl m

theorem within_check (r : Except FieldFault α) : (check r).Within R := by
  cases r with
  | ok a => exact within_pure hR a
  | error fault => exact within_fail hR (.invalid fault)

theorem within_required (e : StoreError) (a : Option α) : (required e a).Within R := by
  cases a with
  | some a => exact within_pure hR a
  | none => exact within_fail hR e

theorem within_alter_events (f : Manager → List Event) :
    (alter fun m => { m with events := f m }).Within R :=
  fun m => hR.aside m m.cache m.overlap (f m)

theorem within_ask (c : StoreCall) (f : Tables → α) : (ask c f).Within R := by
  intro m
  rcases runOn_serve_cases c (fun t => .ok (f t, t)) m with h | ⟨a, t, hf, h⟩
  · rw [ask, h]
    exact hR.refl m
  · -- the tables are those that were found
    obtain ⟨-, rfl⟩ := Prod.mk.inj (Except.ok.inj hf)
    rw [ask, h]
    exact hR.refl m

theorem within_unless (b : Bool) (e : StoreError) (hact : act.Within R) :
    (do if b then fail e
        act).Within R := by
  cases b with
  | true => exact within_fail hR e
  | false => exact hact

theorem within_mutating (hact : act.Within R) : (mutating act).Within R :=
  fun m => hR.trans (hact m) (hR.aside _ _ _ _)

theorem within_experimentExists (shortname : String) : (experimentExists shortname).Within R :=
  within_bind hR (within_ask hR _ _) fun _ => within_pure hR _

theorem within_conditionExists (id : ExperimentId) (condset : String) :
    (conditionExists id condset).Within R :=
  within_bind hR (within_ask hR _ _) fun _ => within_pure hR _

theorem within_owner (id : ExperimentId) : (owner id).Within R :=
  within_bind hR (within_ask hR _ _) fun _ => within_required hR _ _

theorem within_decodeAll (rs : List ConditionRecord) : (decodeAll rs).Within R := by
  refine within_bind hR (fun m => ?_) fun _ => within_check hR _
  rw [runOn_alter, foldl_report]
  exact hR.aside m m.cache m.overlap _

theorem within_conditionsByName (id : ExperimentId) : (conditionsByName id).Within R :=
  within_bind hR (within_ask hR _ _) fun rs =>
    within_bind hR (within_decodeAll hR rs) fun _ => within_pure hR _

theorem within_loadEntries (xs : List Experiment) : (loadEntries xs).Within R := by
  induction xs with
  | nil => exact within_pure hR []
  | cons x xs ih =>
    refine within_bind hR (within_ask hR _ _) fun rs => ?_
    refine within_bind hR (within_decodeAll hR rs) fun _ => ?_
    exact within_bind hR ih fun _ => within_pure hR _

theorem within_interfere : interfere.Within R := by
  intro m
  rw [interfere, runOn_alter]
  split
  · exact hR.aside m m.cache.invalidate false m.events
  · exact hR.refl m

theorem within_loadDataset : loadDataset.Within R := by
  have hexperiments : experiments.Within R :=
    within_bind hR (within_ask hR _ _) fun _ =>
      within_bind hR (within_interfere hR) fun _ => within_pure hR _
  refine within_bind hR hexperiments fun xs => ?_
  exact within_bind hR (within_loadEntries hR xs) fun _ => within_pure hR _

/-- The addition of a condition writes in two of its steps. -/
theorem within_addCondition_of (id : ExperimentId) (input : ConditionInput)
    (hinsert : (insertCondition id input.fields).Within R)
    (hrecord : ∀ experiment,
      (recordCommands experiment input.weight input.commandList).Within R) :
    (addCondition id input).Within R := by
  refine within_mutating hR (within_bind hR (within_owner hR id) fun x => ?_)
  refine within_bind hR (within_conditionExists hR id input.condset) fun taken => ?_
  refine within_unless hR taken _ ?_
  refine within_bind hR hinsert fun new => ?_
  exact within_bind hR (hrecord x.shortname) fun _ => within_pure hR new

/-- So does the update of a condition. -/
theorem within_updateCondition_of (id : ExperimentId) (previous : String) (input : ConditionInput)
    (hreplace : ∀ current, (replaceCondition ⟨current, id, input.fields⟩).Within R)
    (hrecord : ∀ experiment,
      (recordCommands experiment input.weight input.commandList).Within R) :
    (updateCondition id previous input).Within R := by
  refine within_mutating hR (within_bind hR (within_owner hR id) fun x => ?_)
  refine within_bind hR (within_ask hR _ _) fun current => ?_
  refine within_bind hR (within_required hR _ current) fun r => ?_
  have hwrite : (do
      replaceCondition ⟨r.id, id, input.fields⟩
      recordCommands x.shortname input.weight input.commandList).Within R :=
    within_bind hR (hreplace r.id) fun _ => hrecord x.shortname
  cases hrenamed : input.condset != previous with
  | false => exact hwrite
  | true =>
    refine within_bind hR (within_conditionExists hR id input.condset) fun taken => ?_
    exact within_unless hR taken _ hwrite

theorem within_snapshot : snapshot.Within R := by
  intro m
  cases hentry : m.cache.entry with
  | some d =>
    rw [runOn_snapshot_of_some hentry]
    exact hR.refl m
  | none =>
    have hm := within_loadDataset hR m
    cases hload : loadDataset.runOn m with
    | mk r m' =>
      rw [hload] at hm
      cases r with
      | error e =>
        rw [runOn_snapshot_of_error hentry hload]
        exact hm
      | ok d =>
        obtain ⟨event, hsnapshot⟩ := runOn_snapshot_of_none hentry hload
        rw [hsnapshot]
        exact hR.trans hm (hR.aside m' _ m'.overlap _)

end

/-! ## Writing -/

section
variable (hR : WriteFrame R)
include hR

theorem within_serve (c : StoreCall) {f : Tables → Except StoreError (α × Tables)}
    (hf : ∀ t a t', f t = .ok (a, t') → t.Yields t') : (serve c f).Within R := by
  intro m
  rcases runOn_serve_cases c f m with h | ⟨a, t, ht, h⟩
  · rw [h]
    exact hR.refl m
  · rw [h]
    exact hR.serve (hf m.tables a t ht)

theorem within_tell (c : StoreCall) {f : Tables → Except StoreError Tables}
    (hf : ∀ t t', f t = .ok t' → t.Yields t') : (tell c f).Within R := by
  intro m
  rcases runOn_tell_cases c f m with h | ⟨t, ht, h⟩
  · rw [h]
    exact hR.refl m
  · rw [h]
    exact hR.serve (hf m.tables t ht)

theorem within_removeConditions (id : ExperimentId) : (removeConditions id).Within R := by
  refine within_serve hR _ fun t n t' ht => ?_
  obtain rfl := (Prod.mk.inj (Except.ok.inj ht)).2
  exact .deleteConditions

theorem within_addExperiment (name shortname : String) (scope : Scope) (offset : Nat) :
    (addExperiment name shortname scope offset).Within R := by
  have hread := hR.toReadFrame
  refine within_mutating hread (within_bind hread (within_check hread _) fun _ => ?_)
  refine within_bind hread (within_experimentExists hread shortname) fun taken => ?_
  refine within_unless hread taken _ ?_
  refine within_bind hread (within_serve hR _ fun t id t' => .insertExperiment) fun id => ?_
  exact within_bind hread (within_alter_events hread _) fun _ => within_pure hread id

theorem within_updateExperiment (previous : String) (u : ExperimentUpdate) :
    (updateExperiment previous u).Within R := by
  have hread := hR.toReadFrame
  refine within_mutating hread (within_bind hread (within_ask hread _ _) fun current => ?_)
  refine within_bind hread (within_required hread _ current) fun x => ?_
  refine within_bind hread (within_check hread _) fun _ => ?_
  refine within_bind hread (within_check hread _) fun offset => ?_
  have hreplace : (replaceExperiment
      ⟨x.id, u.name, u.shortname, u.scope, u.enabled, u.adminEnabled, offset⟩).Within R :=
    within_tell hR _ fun t t' => .updateExperiment
  cases hrenamed : u.shortname != previous with
  | false => exact hreplace
  | true =>
    refine within_bind hread (within_experimentExists hread u.shortname) fun taken => ?_
    exact within_unless hread taken _ hreplace

theorem within_deleteExperiment (shortname : String) : (deleteExperiment shortname).Within R := by
  have hread := hR.toReadFrame
  refine within_mutating hread (within_bind hread (within_ask hread _ _) fun current => ?_)
  refine within_bind hread (within_required hread _ current) fun x => ?_
  refine within_bind hread (within_removeConditions hR x.id) fun removed => ?_
  refine within_bind hread (within_tell hR _ fun t t' => .deleteExperiment) fun _ => ?_
  exact within_alter_events hread _

theorem within_deleteCondition (id : ExperimentId) (condset : String) :
    (deleteCondition id condset).Within R := by
  have hread := hR.toReadFrame
  refine within_mutating hread (within_bind hread (within_ask hread _ _) fun current => ?_)
  refine within_bind hread (within_required hread _ current) fun r => ?_
  exact within_tell hR _ fun t t' => .deleteCondition

theorem within_deleteAllConditions (id : ExperimentId) : (deleteAllConditions id).Within R :=
  within_mutating hR.toReadFrame (within_bind hR.toReadFrame (within_removeConditions hR id)
    fun _ => within_pure hR.toReadFrame ())

/-! ## Writing and recording -/

section
variable (hrecord : ∀ m entry, R m (m.record entry))
include hrecord

theorem within_recordCommands (experiment : String) (weight : Nat) (commands : CommandList) :
    (recordCommands experiment weight commands).Within R := by
  have hfold (entries : List AuditEntry) : ∀ m, R m (entries.foldl Manager.record m) := by
    induction entries with
    | nil => exact hR.refl
    | cons entry entries ih => exact fun m => hR.trans (hrecord m entry) (ih _)
  exact hfold _

theorem within_addCondition (id : ExperimentId) (input : ConditionInput) :
    (addCondition id input).Within R :=
  within_addCondition_of hR.toReadFrame id input
    (within_serve hR _ fun _ _ _ => .insertCondition)
    fun experiment => within_recordCommands hR hrecord experiment _ _

theorem within_updateCondition (id : ExperimentId) (previous : String) (input : ConditionInput) :
    (updateCondition id previous input).Within R :=
  within_updateCondition_of hR.toReadFrame id previous input
    (fun _ => within_tell hR _ fun _ _ => .updateCondition)
    fun experiment => within_recordCommands hR hrecord experiment _ _

end

end

end Action

end SplitTest.Store

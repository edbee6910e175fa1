import SplitTest.Proofs.Store.Action
import SplitTest.Proofs.Store.Listing

/-!
# Operations and the catalog

Every operation of a manager whose store is in order does what the operation of the same
name does to the catalog of its tables (`Action.Follows`): it fails in the same cases, with
the same error and without a trace but a forgotten cache, and otherwise gives the same
answer and leaves tables in good order whose catalog is the one expected.

The checks that the store makes once more never fail, since the manager has made them.
-/

namespace SplitTest.Store

/-- An operation does to a manager what a step does to the catalog of its tables. -/
def Action.Follows {α : Type} (act : Action α) (m : Manager) :
    Except StoreError (α × Catalog) → Prop
  | .error e => act.runOn m = (.error e, m.invalidate)
  | .ok (a, c) => ∃ tables audit events,
    act.runOn m =
      (.ok a, { m with tables := tables, audit := audit, events := events }.invalidate) ∧
    tables.Managed ∧ tables.catalog = c

namespace Action
variable {α : Type} {m : Manager}

/-- An operation that fails without a trace follows a step that fails. -/
theorem follows_error {act : Action α} {e : StoreError} (h : act.runOn m = (.error e, m)) :
    (mutating act).Follows m (.error e) := by
  rw [Follows, runOn_mutating, h]

/-- An operation that leaves other tables follows a step to their catalog. -/
theorem follows_ok {act : Action α} {a : α} {c : Catalog} (tables : Tables)
    (audit : List AuditEntry) (events : List Event)
    (h : act.runOn m = (.ok a, { m with tables := tables, audit := audit, events := events }))
    (ht : tables.Managed) (hc : tables.catalog = c) : (mutating act).Follows m (.ok (a, c)) :=
  ⟨tables, audit, events, by rw [runOn_mutating, h], ht, hc⟩

/-! ## Parts of operations -/

theorem runOn_checkShortname {s : String} (h : isShortname s = true) :
    (check (checkShortname s)).runOn m = (.ok (), m) := by
  rw [checkShortname, if_pos h, runOn_check]

theorem runOn_checkShortname_of_not {s : String} (h : isShortname s = false) :
    (check (checkShortname s)).runOn m = (.error (.invalid (.shortname s)), m) := by
  rw [checkShortname, h, runOn_check]
  rfl

theorem runOn_checkOffset {n : Int} (h : 0 ≤ n ∧ n ≤ 99) :
    (check (checkOffset n)).runOn m = (.ok n.toNat, m) := by
  rw [checkOffset, if_pos h, runOn_check]

theorem runOn_checkOffset_of_not {n : Int} (h : ¬(0 ≤ n ∧ n ≤ 99)) :
    (check (checkOffset n)).runOn m = (.error (.invalid (.offset n)), m) := by
  rw [checkOffset, if_neg h, runOn_check]

theorem runOn_required_some (e : StoreError) (a : α) :
    (required e (some a)).runOn m = (.ok a, m) := rfl

theorem runOn_required_none (e : StoreError) :
    (required e none : Action α).runOn m = (.error e, m) := rfl

/-- Recording entries changes the logs alone. -/
theorem foldl_record (entries : List AuditEntry) : ∀ m : Manager, ∃ audit events,
    entries.foldl Manager.record m = { m with audit := audit, events := events } := by
  induction entries with
  | nil => exact fun m => ⟨m.audit, m.events, rfl⟩
  | cons entry entries ih =>
    intro m
    obtain ⟨audit, events, hrest⟩ := ih (m.record entry)
    refine ⟨audit, events, ?_⟩
    rw [List.foldl_cons, hrest, Manager.record]
    split <;> rfl

section
variable (ho : m.outages = [])
include ho

theorem runOn_experimentNamed? (shortname : String) :
    (experimentNamed? shortname).runOn m = (.ok (m.tables.experimentNamed? shortname), m) :=
  runOn_ask ho _ _

theorem runOn_experimentExists (shortname : String) :
    (experimentExists shortname).runOn m =
      (.ok (m.tables.experimentNamed? shortname).isSome, m) := by
  rw [experimentExists, runOn_bind_of_ok (runOn_experimentNamed? ho shortname), runOn_pure]

theorem runOn_conditionNamed? (id : ExperimentId) (condset : String) :
    (conditionNamed? id condset).runOn m = (.ok (m.tables.conditionNamed? id condset), m) :=
  runOn_ask ho _ _

theorem runOn_conditionExists (id : ExperimentId) (condset : String) :
    (conditionExists id condset).runOn m =
      (.ok (m.tables.conditionNamed? id condset).isSome, m) := by
  rw [conditionExists, runOn_bind_of_ok (runOn_conditionNamed? ho id condset), runOn_pure]

theorem runOn_owner {id : ExperimentId} {x : Experiment} (h : m.tables.experiment? id = some x) :
    (owner id).runOn m = (.ok x, m) := by
  have hask : (experiment? id).runOn m = (.ok (m.tables.experiment? id), m) := runOn_ask ho _ _
  rw [owner, runOn_bind_of_ok hask, h, runOn_required_some]

theorem runOn_owner_of_none {id : ExperimentId} (h : m.tables.experiment? id = none) :
    (owner id).runOn m = (.error (.notFound .experiment (Text.ofInt id.value)), m) := by
  have hask : (experiment? id).runOn m = (.ok (m.tables.experiment? id), m) := runOn_ask ho _ _
  rw [owner, runOn_bind_of_ok hask, h, runOn_required_none]

theorem runOn_insertExperiment {d : ExperimentDraft}
    (h : m.tables.experimentNamed? d.shortname = none) :
    (insertExperiment d).runOn m =
      (.ok ⟨(m.tables.lastExperiment + 1 : Nat)⟩,
        { m with tables := m.tables.withExperiment d }) := by
  have hinsert : m.tables.insertExperiment d =
      .ok (⟨(m.tables.lastExperiment + 1 : Nat)⟩, m.tables.withExperiment d) := by
    rw [Tables.insertExperiment_eq, h]
    rfl
  rw [insertExperiment, runOn_serve ho, hinsert]

theorem runOn_insertCondition {id : ExperimentId} {fields : ConditionFields}
    (h : m.tables.conditionNamed? id fields.condset = none) :
    (insertCondition id fields).runOn m =
      (.ok ⟨(m.tables.lastCondition + 1 : Nat)⟩,
        { m with tables := m.tables.withCondition id fields }) := by
  have hinsert : m.tables.insertCondition id fields =
      .ok (⟨(m.tables.lastCondition + 1 : Nat)⟩, m.tables.withCondition id fields) := by
    rw [Tables.insertCondition_eq, h]
    rfl
  rw [insertCondition, runOn_serve ho, hinsert]

theorem runOn_replaceExperiment {x : Experiment}
    (h : m.tables.updateExperiment x = .ok (m.tables.replacing x)) :
    (replaceExperiment x).runOn m = (.ok (), { m with tables := m.tables.replacing x }) := by
  rw [replaceExperiment, runOn_tell ho, h]

theorem runOn_replaceCondition {r : ConditionRecord}
    (h : m.tables.updateCondition r = .ok (m.tables.rewriting r)) :
    (replaceCondition r).runOn m = (.ok (), { m with tables := m.tables.rewriting r }) := by
  rw [replaceCondition, runOn_tell ho, h]

theorem runOn_removeCondition {id : ConditionId}
    (h : m.tables.deleteCondition id = .ok (m.tables.keeping fun c => c.id != id)) :
    (removeCondition id).runOn m =
      (.ok (), { m with tables := m.tables.keeping fun c => c.id != id }) := by
  rw [removeCondition, runOn_tell ho, h]

theorem runOn_removeConditions (id : ExperimentId) :
    (removeConditions id).runOn m =
      (.ok (m.tables.conditionsOf id).length,
        { m with tables := m.tables.keeping fun c => c.experimentId != id }) := by
  rw [removeConditions, runOn_serve ho]
  rfl

/-! ## Experiments -/

/-- The addition of an experiment, where nothing is in its way. -/
theorem runOn_addExperiment (name : String) {shortname : String} (scope : Scope) (offset : Nat)
    (hname : isShortname shortname = true)
    (hfree : m.tables.experimentNamed? shortname = none) :
    let d : ExperimentDraft := ⟨name, shortname, scope, false, false, offset⟩
    let id : ExperimentId := ⟨(m.tables.lastExperiment + 1 : Nat)⟩
    (addExperiment name shortname scope offset).runOn m =
      (.ok id, ({ m with tables := m.tables.withExperiment d }.report
        (.experimentAdded shortname id scope)).invalidate) := by
  intro d id
  have hnot : ¬(m.tables.experimentNamed? shortname).isSome = true :=
    Option.not_isSome_iff_eq_none.mpr hfree
  have hinsert : (insertExperiment d).runOn m = _ := runOn_insertExperiment ho hfree
  rw [addExperiment, runOn_mutating, runOn_bind_of_ok (runOn_checkShortname hname),
    runOn_bind_of_ok (runOn_experimentExists ho shortname), if_neg hnot, runOn_bind_of_ok hinsert]
  rfl

theorem follows_addExperiment (ht : m.tables.Managed) (name shortname : String) (scope : Scope)
    {offset : Nat} (hoffset : offset ≤ 99) :
    (addExperiment name shortname scope offset).Follows m
      (m.tables.catalog.addExperiment name shortname scope offset) := by
  rw [Catalog.addExperiment, Tables.catalog_named?, Option.isSome_map]
  split
  · next hname => exact follows_error (runOn_bind_of_error (runOn_checkShortname_of_not hname))
  next hname =>
  rw [Bool.not_eq_false] at hname
  split
  · next htaken =>
    refine follows_error ?_
    rw [runOn_bind_of_ok (runOn_checkShortname hname),
      runOn_bind_of_ok (runOn_experimentExists ho shortname), if_pos htaken]
    rfl
  next hfree =>
  have hnone : m.tables.experimentNamed? shortname = none := Option.not_isSome_iff_eq_none.mp hfree
  refine ⟨m.tables.withExperiment ⟨name, shortname, scope, false, false, offset⟩, m.audit,
    m.events ++ [.experimentAdded shortname ⟨(m.tables.lastExperiment + 1 : Nat)⟩ scope], ?_,
    ht.withExperiment hnone hname hoffset, Tables.catalog_withExperiment ht _⟩
  exact runOn_addExperiment ho name scope offset hname hnone

theorem follows_updateExperiment (ht : m.tables.Managed) (previous : String)
    (u : ExperimentUpdate) :
    (updateExperiment previous u).Follows m (m.tables.catalog.updateExperiment previous u) := by
  have hask := runOn_experimentNamed? ho previous
  rw [Catalog.updateExperiment, Tables.catalog_named?, Tables.catalog_named?, Option.isSome_map]
  cases hprevious : m.tables.experimentNamed? previous with
  | none =>
    refine follows_error ?_
    rw [runOn_bind_of_ok hask, hprevious, runOn_bind_of_error (runOn_required_none _)]
  | some x =>
    rw [hprevious] at hask
    obtain ⟨hmem, hshortname⟩ := ht.experimentNamed?_eq_some_iff.mp hprevious
    simp only [Option.map_some]
    split
    · next hname =>
      refine follows_error ?_
      rw [runOn_bind_of_ok hask, runOn_bind_of_ok (runOn_required_some _ x),
        runOn_bind_of_error (runOn_checkShortname_of_not hname)]
    next hname =>
    rw [Bool.not_eq_false] at hname
    split
    · next hoffset =>
      refine follows_error ?_
      rw [runOn_bind_of_ok hask, runOn_bind_of_ok (runOn_required_some _ x),
        runOn_bind_of_ok (runOn_checkShortname hname),
        runOn_bind_of_error (runOn_checkOffset_of_not hoffset)]
    next hoffset =>
    rw [not_not] at hoffset
    split
    · next htaken =>
      refine follows_error ?_
      rw [runOn_bind_of_ok hask, runOn_bind_of_ok (runOn_required_some _ x),
        runOn_bind_of_ok (runOn_checkShortname hname),
        runOn_bind_of_ok (runOn_checkOffset hoffset), if_pos (bne_iff_ne.mpr htaken.1),
        runOn_bind_of_ok (runOn_experimentExists ho u.shortname), if_pos htaken.2]
      rfl
    next hfree =>
    -- what the store checks once more
    have hother : ∀ e ∈ m.tables.experiments, e.id ≠ x.id → e.shortname ≠ u.shortname := by
      intro e he hid hsame
      refine hfree ⟨?_, Tables.isSome_experimentNamed?_iff.mpr ⟨e, he, hsame⟩⟩
      -- another experiment with the old shortname would be the same one
      rintro rfl
      have heq : e = x :=
        List.inj_on_of_nodup_map ht.shortnames he hmem (hsame.trans hshortname.symm)
      exact hid (congrArg _ heq)
    have hthere : ∃ e ∈ m.tables.experiments, e.id = (u.experiment x.id).id := ⟨x, hmem, rfl⟩
    have hreplace := runOn_replaceExperiment ho (ht.updateExperiment_eq hother hthere)
    have hadmitted : Admitted (u.experiment x.id) := by
      refine ⟨hname, ?_⟩
      show u.numericOffset.toNat ≤ 99
      omega
    refine follows_ok (m.tables.replacing (u.experiment x.id)) m.audit m.events ?_
      (ht.replacing hother hthere hadmitted) (Tables.catalog_replacing ht.toWellFormed hthere)
    rw [runOn_bind_of_ok hask, runOn_bind_of_ok (runOn_required_some _ x),
      runOn_bind_of_ok (runOn_checkShortname hname), runOn_bind_of_ok (runOn_checkOffset hoffset)]
    by_cases hsame : u.shortname = previous
    · rw [if_neg (by simp [hsame])]
      exact hreplace
    · have hnot : ¬(m.tables.experimentNamed? u.shortname).isSome = true :=
        fun htaken => hfree ⟨hsame, htaken⟩
      rw [if_pos (bne_iff_ne.mpr hsame),
        runOn_bind_of_ok (runOn_experimentExists ho u.shortname), if_neg hnot]
      exact hreplace

theorem follows_deleteExperiment (ht : m.tables.Managed) (shortname : String) :
    (deleteExperiment shortname).Follows m (m.tables.catalog.deleteExperiment shortname) := by
  have hask := runOn_experimentNamed? ho shortname
  rw [Catalog.deleteExperiment, Tables.catalog_named?]
  cases hcurrent : m.tables.experimentNamed? shortname with
  | none =>
    refine follows_error ?_
    rw [runOn_bind_of_ok hask, hcurrent, runOn_bind_of_error (runOn_required_none _)]
  | some x =>
    rw [hcurrent] at hask
    obtain ⟨hmem, -⟩ := ht.experimentNamed?_eq_some_iff.mp hcurrent
    have hremove : (removeExperiment x.id).runOn
        { m with tables := m.tables.keeping fun c => c.experimentId != x.id } =
          (.ok (), { m with tables := m.tables.without x.id }) := by
      have hdelete := ht.deleteExperiment_eq ⟨x, hmem, rfl⟩
      have ho' : ({ m with tables := m.tables.keeping fun c => c.experimentId != x.id } :
        Manager).outages = [] := ho
      rw [removeExperiment, runOn_tell ho']
      simp only [hdelete]
    refine follows_ok (m.tables.without x.id) m.audit
      (m.events ++ [.experimentDeleted shortname (m.tables.conditionsOf x.id).length]) ?_
      (ht.without x.id) (Tables.catalog_without x.id)
    rw [runOn_bind_of_ok hask, runOn_bind_of_ok (runOn_required_some _ x),
      runOn_bind_of_ok (runOn_removeConditions ho x.id), runOn_bind_of_ok hremove]
    rfl

/-! ## Conditions -/

/-- The addition of a condition, where nothing is in its way. -/
theorem runOn_addCondition {id : ExperimentId} {x : Experiment} {input : ConditionInput}
    (howner : m.tables.experiment? id = some x)
    (hfree : m.tables.conditionNamed? id input.condset = none) :
    (addCondition id input).runOn m = (.ok ⟨(m.tables.lastCondition + 1 : Nat)⟩,
      ((AuditEntry.ofCommands x.shortname input.weight input.commandList).foldl Manager.record
        { m with tables := m.tables.withCondition id input.fields }).invalidate) := by
  have hnot : ¬(m.tables.conditionNamed? id input.condset).isSome = true :=
    Option.not_isSome_iff_eq_none.mpr hfree
  rw [addCondition, runOn_mutating, runOn_bind_of_ok (runOn_owner ho howner),
    runOn_bind_of_ok (runOn_conditionExists ho id input.condset), if_neg hnot,
    runOn_bind_of_ok (runOn_insertCondition ho hfree)]
  rfl

theorem follows_addCondition (ht : m.tables.Managed) (id : ExperimentId)
    (input : ConditionInput) :
    (addCondition id input).Follows m (m.tables.catalog.addCondition id input) := by
  rw [Catalog.addCondition, ht.catalog_numbered?]
  cases howner : m.tables.experiment? id with
  | none => exact follows_error (runOn_bind_of_error (runOn_owner_of_none ho howner))
  | some x =>
    obtain ⟨hmem, rfl⟩ := ht.experiment?_eq_some_iff.mp howner
    simp only [Option.map_some, Tables.listing_condition?, Option.isSome_map]
    split
    · next htaken =>
      refine follows_error ?_
      rw [runOn_bind_of_ok (runOn_owner ho howner),
        runOn_bind_of_ok (runOn_conditionExists ho x.id input.condset), if_pos htaken]
      rfl
    next hfree =>
    have hnone : m.tables.conditionNamed? x.id input.fields.condset = none :=
      Option.not_isSome_iff_eq_none.mp hfree
    obtain ⟨audit, events, hrecord⟩ := foldl_record
      (AuditEntry.ofCommands x.shortname input.weight input.commandList)
      { m with tables := m.tables.withCondition x.id input.fields }
    refine ⟨m.tables.withCondition x.id input.fields, audit, events, ?_,
      ht.withCondition hnone ⟨x, hmem, rfl⟩ input.readable_fields, ?_⟩
    · rw [runOn_addCondition ho howner hnone, hrecord]
      rfl
    · rw [Tables.catalog_withCondition ht.toWellFormed, ConditionInput.content_fields]
      rfl

/-- The update of a condition, where nothing is in its way. -/
theorem runOn_updateCondition (ht : m.tables.Managed) {id : ExperimentId} {previous : String}
    {x : Experiment} {r : ConditionRecord} {input : ConditionInput}
    (howner : m.tables.experiment? id = some x)
    (hprevious : m.tables.conditionNamed? id previous = some r)
    (hfree : input.condset = previous ∨ m.tables.conditionNamed? id input.condset = none) :
    (updateCondition id previous input).runOn m = (.ok (),
      ((AuditEntry.ofCommands x.shortname input.weight input.commandList).foldl Manager.record
        { m with tables := m.tables.rewriting ⟨r.id, id, input.fields⟩ }).invalidate) := by
  have hask : (conditionNamed? id previous).runOn m = (.ok (some r), m) := by
    rw [runOn_conditionNamed? ho, hprevious]
  obtain ⟨hr, -⟩ := ht.conditionNamed?_eq_some_iff.mp hprevious
  have hother := ht.conditionNamed?_other hprevious hfree
  have hreplace := runOn_replaceCondition (r := ⟨r.id, id, input.fields⟩) ho
    (ht.updateCondition_eq hother ⟨r, hr, rfl⟩)
  have hrest : (do
      replaceCondition ⟨r.id, id, input.fields⟩
      recordCommands x.shortname input.weight input.commandList : Action Unit).runOn m = (.ok (),
        (AuditEntry.ofCommands x.shortname input.weight input.commandList).foldl Manager.record
          { m with tables := m.tables.rewriting ⟨r.id, id, input.fields⟩ }) := by
    rw [runOn_bind_of_ok hreplace]
    rfl
  rw [updateCondition, runOn_mutating, runOn_bind_of_ok (runOn_owner ho howner),
    runOn_bind_of_ok hask, runOn_bind_of_ok (runOn_required_some _ r)]
  by_cases hsame : input.condset = previous
  · rw [if_neg (by simp [hsame]), hrest]
  · have hnot : ¬(m.tables.conditionNamed? id input.condset).isSome = true :=
      Option.not_isSome_iff_eq_none.mpr (hfree.resolve_left hsame)
    rw [if_pos (bne_iff_ne.mpr hsame),
      runOn_bind_of_ok (runOn_conditionExists ho id input.condset), if_neg hnot]
    exact congrArg (fun r => (r.1, r.2.invalidate)) hrest

theorem follows_updateCondition (ht : m.tables.Managed) (id : ExperimentId) (previous : String)
    (input : ConditionInput) :
    (updateCondition id previous input).Follows m
      (m.tables.catalog.updateCondition id previous input) := by
  have hask := runOn_conditionNamed? ho id previous
  rw [Catalog.updateCondition, ht.catalog_numbered?]
  cases howner : m.tables.experiment? id with
  | none => exact follows_error (runOn_bind_of_error (runOn_owner_of_none ho howner))
  | some x =>
    obtain ⟨hmem, rfl⟩ := ht.experiment?_eq_some_iff.mp howner
    simp only [Option.map_some, Tables.listing_condition?, Option.isSome_map]
    cases hprevious : m.tables.conditionNamed? x.id previous with
    | none =>
      refine follows_error ?_
      rw [runOn_bind_of_ok (runOn_owner ho howner), runOn_bind_of_ok hask, hprevious,
        runOn_bind_of_error (runOn_required_none _)]
    | some r =>
      rw [hprevious] at hask
      obtain ⟨hr, hrowner, -⟩ := ht.conditionNamed?_eq_some_iff.mp hprevious
      simp only [Option.map_some]
      split
      · next htaken =>
        refine follows_error ?_
        rw [runOn_bind_of_ok (runOn_owner ho howner), runOn_bind_of_ok hask,
          runOn_bind_of_ok (runOn_required_some _ r), if_pos (bne_iff_ne.mpr htaken.1),
          runOn_bind_of_ok (runOn_conditionExists ho x.id input.condset), if_pos htaken.2]
        rfl
      next hfree =>
      have hfree := eq_or_eq_none_of_not hfree
      have hother := ht.conditionNamed?_other hprevious hfree
      have hthere : ∃ c ∈ m.tables.conditions, c.id = r.id := ⟨r, hr, rfl⟩
      have hstays : ∀ c ∈ m.tables.conditions, c.id = r.id → c.experimentId = x.id := by
        intro c hc hid
        rw [List.inj_on_of_nodup_map ht.conditionIds hc hr hid, hrowner]
      obtain ⟨audit, events, hrecord⟩ := foldl_record
        (AuditEntry.ofCommands x.shortname input.weight input.commandList)
        { m with tables := m.tables.rewriting ⟨r.id, x.id, input.fields⟩ }
      refine ⟨m.tables.rewriting ⟨r.id, x.id, input.fields⟩, audit, events, ?_,
        ht.rewriting hother hthere ⟨x, hmem, rfl⟩ input.readable_fields, ?_⟩
      · rw [runOn_updateCondition ho ht howner hprevious hfree, hrecord]
      · rw [Tables.catalog_rewriting (r := ⟨r.id, x.id, input.fields⟩) ht.toWellFormed hthere
          hstays, ConditionInput.content_fields]
        rfl

theorem follows_deleteCondition (ht : m.tables.Managed) (id : ExperimentId) (condset : String) :
    (deleteCondition id condset).Follows m (m.tables.catalog.deleteCondition id condset) := by
  have hask := runOn_conditionNamed? ho id condset
  rw [Catalog.deleteCondition, ht.catalog_condition?]
  cases hcurrent : m.tables.conditionNamed? id condset with
  | none =>
    refine follows_error ?_
    rw [runOn_bind_of_ok hask, hcurrent, runOn_bind_of_error (runOn_required_none _)]
  | some r =>
    rw [hcurrent] at hask
    obtain ⟨hr, rfl, -⟩ := ht.conditionNamed?_eq_some_iff.mp hcurrent
    have hremove := runOn_removeCondition ho (ht.deleteCondition_eq ⟨r, hr, rfl⟩)
    refine follows_ok (m.tables.keeping fun c => c.id != r.id) m.audit m.events ?_
      (ht.keeping _) ?_
    · rw [runOn_bind_of_ok hask, runOn_bind_of_ok (runOn_required_some _ r)]
      exact hremove
    · refine Tables.catalog_keeping _ (fun c hc howner => ?_) (fun w => w.id != r.id) fun c _ => rfl
      refine bne_iff_ne.mpr fun hid => howner ?_
      rw [List.inj_on_of_nodup_map ht.conditionIds hc hr hid]

theorem follows_deleteAllConditions (ht : m.tables.Managed) (id : ExperimentId) :
    (deleteAllConditions id).Follows m (m.tables.catalog.deleteAllConditions id) := by
  refine follows_ok (m.tables.keeping fun c => c.experimentId != id) m.audit m.events ?_
    (ht.keeping _) ?_
  · rw [runOn_bind_of_ok (runOn_removeConditions ho id)]
    rfl
  · have hnone (cs : List Condition) : cs.filter (fun _ => false) = [] :=
      List.filter_eq_nil_iff.mpr fun _ _ => Bool.false_ne_true
    have hkeep := Tables.catalog_keeping (t := m.tables) (p := fun c => c.experimentId != id) id
      (fun c _ hc => bne_iff_ne.mpr hc) (fun _ => false)
      fun c hc => by
        rw [(Tables.mem_conditionsOf_iff.mp hc).2]
        exact bne_self_eq_false id
    simp only [hnone] at hkeep
    exact hkeep

end

end Action

end SplitTest.Store

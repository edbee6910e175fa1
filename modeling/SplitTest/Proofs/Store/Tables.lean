import SplitTest.Proofs.Lists
import SplitTest.Proofs.Store.Filing
import SplitTest.Store.Tables
import SplitTest.Store.Manager

/-!
# Tables in good order

`Tables.WellFormed` is what the tables keep by themselves, whoever calls them: every row stands
under its own number, which was given out, and names are distinct.  `Tables.Managed` is what
the manager adds to it: names and offsets are admitted, every condition belongs to an
experiment and is stored in a form that can be read.

Each call of the store that changes the tables has one lemma for either.
-/

namespace SplitTest.Store

/-- The name of a stored condition, which is distinct within its experiment only. -/
def ConditionRecord.name (r : ConditionRecord) : ExperimentId × String :=
  (r.experimentId, r.fields.condset)

/-- The commands of a record were stored from a list. -/
def ConditionRecord.Readable (r : ConditionRecord) : Prop :=
  ∃ l : CommandList, r.fields.commands = l.stored

/-- An experiment has an admitted name and offset. -/
def Admitted (x : Experiment) : Prop := isShortname x.shortname = true ∧ x.numericOffset ≤ 99

namespace Tables

/-- What the tables keep by themselves. -/
structure WellFormed (t : Tables) : Prop where
  /-- Experiments stand under their own numbers, which were given out. -/
  experimentsFiled : t.experimentTable.Filed (fun x => x.id.value) t.lastExperiment
  /-- No two experiments have one shortname. -/
  shortnames : (t.experiments.map Experiment.shortname).Nodup
  /-- Conditions stand under their own numbers too. -/
  conditionsFiled : t.conditionTable.Filed (fun r => r.id.value) t.lastCondition
  /-- No two conditions of an experiment have one condset. -/
  condsets : (t.conditions.map ConditionRecord.name).Nodup

/-- What the tables of a manager keep. -/
structure Managed (t : Tables) : Prop extends t.WellFormed where
  /-- Every experiment is admitted. -/
  admitted : ∀ x ∈ t.experiments, Admitted x
  /-- Every condition belongs to an experiment. -/
  owned : ∀ r ∈ t.conditions, ∃ x ∈ t.experiments, x.id = r.experimentId
  /-- Every condition can be read. -/
  readable : ∀ r ∈ t.conditions, r.Readable

theorem managed_empty : empty.Managed where
  experimentsFiled := SortedMap.filed_empty
  shortnames := .nil
  conditionsFiled := SortedMap.filed_empty
  condsets := .nil
  admitted := by rintro x ⟨⟩
  owned := by rintro r ⟨⟩
  readable := by rintro r ⟨⟩

section
variable {t : Tables}

/-! ## Lookups -/

/-- No two experiments have one number. -/
theorem WellFormed.experimentIds (h : t.WellFormed) : (t.experiments.map Experiment.id).Nodup := by
  refine List.Nodup.of_map ExperimentId.value ?_
  rw [List.map_map]
  exact h.experimentsFiled.nodup

/-- No two conditions have one number. -/
theorem WellFormed.conditionIds (h : t.WellFormed) :
    (t.conditions.map ConditionRecord.id).Nodup := by
  refine List.Nodup.of_map ConditionId.value ?_
  rw [List.map_map]
  exact h.conditionsFiled.nodup

theorem WellFormed.experiment_le (h : t.WellFormed) {x : Experiment} (hx : x ∈ t.experiments) :
    x.id.value ≤ t.lastExperiment :=
  (h.experimentsFiled.given_of_mem hx).2

theorem WellFormed.condition_le (h : t.WellFormed) {r : ConditionRecord} (hr : r ∈ t.conditions) :
    r.id.value ≤ t.lastCondition :=
  (h.conditionsFiled.given_of_mem hr).2

theorem WellFormed.experiment?_eq_some_iff (h : t.WellFormed) {id : ExperimentId}
    {x : Experiment} : t.experiment? id = some x ↔ x ∈ t.experiments ∧ x.id = id := by
  rw [experiment?, h.experimentsFiled.get?_eq_some_iff, experiments, ExperimentId.ext_iff]

theorem WellFormed.contains_experiment_iff (h : t.WellFormed) {id : ExperimentId} :
    t.experimentTable.contains id.value = true ↔ ∃ x ∈ t.experiments, x.id = id := by
  simp only [h.experimentsFiled.contains_iff, experiments, ExperimentId.ext_iff]

theorem WellFormed.contains_condition_iff (h : t.WellFormed) {id : ConditionId} :
    t.conditionTable.contains id.value = true ↔ ∃ r ∈ t.conditions, r.id = id := by
  simp only [h.conditionsFiled.contains_iff, conditions, ConditionId.ext_iff]

theorem WellFormed.experimentNamed?_eq_some_iff (h : t.WellFormed) {shortname : String}
    {x : Experiment} :
    t.experimentNamed? shortname = some x ↔ x ∈ t.experiments ∧ x.shortname = shortname :=
  find?_eq_some_iff_of_nodup h.shortnames

theorem WellFormed.conditionNamed?_eq_some_iff (h : t.WellFormed) {id : ExperimentId}
    {condset : String} {r : ConditionRecord} :
    t.conditionNamed? id condset = some r ↔
      r ∈ t.conditions ∧ r.experimentId = id ∧ r.fields.condset = condset := by
  have hfind : t.conditionNamed? id condset =
      t.conditions.find? fun c => c.name == (id, condset) := rfl
  rw [hfind, find?_eq_some_iff_of_nodup h.condsets, ConditionRecord.name, Prod.mk.injEq]

/-- An experiment that is there is found again by its shortname. -/
theorem isSome_experimentNamed?_iff {shortname : String} :
    (t.experimentNamed? shortname).isSome = true ↔
      ∃ x ∈ t.experiments, x.shortname = shortname := by
  rw [experimentNamed?, List.find?_isSome]
  simp only [beq_iff_eq]

theorem isSome_conditionNamed?_iff {id : ExperimentId} {condset : String} :
    (t.conditionNamed? id condset).isSome = true ↔
      ∃ r ∈ t.conditions, r.name = (id, condset) := by
  rw [conditionNamed?, List.find?_isSome]
  simp only [Bool.and_eq_true, beq_iff_eq, ConditionRecord.name, Prod.mk.injEq]

theorem mem_conditionsOf_iff {id : ExperimentId} {r : ConditionRecord} :
    r ∈ t.conditionsOf id ↔ r ∈ t.conditions ∧ r.experimentId = id := by
  rw [conditionsOf, List.mem_filter, beq_iff_eq]

/-- What the store checks once more before a condition is renamed: no other condition has the
new name. -/
theorem WellFormed.conditionNamed?_other (h : t.WellFormed) {id : ExperimentId}
    {previous condset : String} {r : ConditionRecord}
    (hprevious : t.conditionNamed? id previous = some r)
    (hfree : condset = previous ∨ t.conditionNamed? id condset = none) :
    ∀ c ∈ t.conditions, c.id ≠ r.id → c.name ≠ (id, condset) := by
  obtain ⟨hr, howner, hcondset⟩ := h.conditionNamed?_eq_some_iff.mp hprevious
  intro c hc hid hname
  rcases hfree with rfl | hnone
  · -- another condition of the experiment with the old condset would be the same one
    have hsame : c = r :=
      List.inj_on_of_nodup_map h.condsets hc hr (hname.trans (Prod.ext howner hcondset).symm)
    exact hid (congrArg _ hsame)
  · exact Option.not_isSome_iff_eq_none.mpr hnone (isSome_conditionNamed?_iff.mpr ⟨c, hc, hname⟩)

/-! ## Experiments come and go -/

/-- The tables with one more experiment. -/
def withExperiment (t : Tables) (d : ExperimentDraft) : Tables :=
  { t with
    experimentTable := t.experimentTable.insert (t.lastExperiment + 1 : Nat)
      (d.withId ⟨(t.lastExperiment + 1 : Nat)⟩)
    lastExperiment := t.lastExperiment + 1 }

theorem WellFormed.experiments_withExperiment (h : t.WellFormed) (d : ExperimentDraft) :
    (t.withExperiment d).experiments =
      t.experiments ++ [d.withId ⟨(t.lastExperiment + 1 : Nat)⟩] :=
  h.experimentsFiled.values_insert_next _

theorem insertExperiment_eq (d : ExperimentDraft) :
    t.insertExperiment d =
      if (t.experimentNamed? d.shortname).isSome then
        .error (.alreadyExists .experiment d.shortname)
      else .ok (⟨(t.lastExperiment + 1 : Nat)⟩, t.withExperiment d) := by
  have hany : (t.experiments.any fun e => e.shortname == d.shortname) =
      (t.experimentNamed? d.shortname).isSome := by
    rw [experimentNamed?, Bool.eq_iff_iff, List.any_eq_true, List.find?_isSome]
  rw [insertExperiment, hany]
  rfl

theorem WellFormed.withExperiment (h : t.WellFormed) {d : ExperimentDraft}
    (hd : t.experimentNamed? d.shortname = none) : (t.withExperiment d).WellFormed where
  experimentsFiled := h.experimentsFiled.insert_next rfl
  shortnames := by
    rw [h.experiments_withExperiment]
    refine nodup_map_concat h.shortnames fun x hx hname => ?_
    -- the new name is not taken
    have hsome := isSome_experimentNamed?_iff.mpr ⟨x, hx, hname⟩
    rw [ExperimentDraft.withId, hd] at hsome
    cases hsome
  conditionsFiled := h.conditionsFiled
  condsets := h.condsets

theorem Managed.withExperiment (h : t.Managed) {d : ExperimentDraft}
    (hd : t.experimentNamed? d.shortname = none) (hname : isShortname d.shortname = true)
    (hoffset : d.numericOffset ≤ 99) : (t.withExperiment d).Managed where
  toWellFormed := h.toWellFormed.withExperiment hd
  admitted := by
    intro x hx
    rw [h.experiments_withExperiment] at hx
    rcases List.mem_append.mp hx with hx | hx
    · exact h.admitted x hx
    · obtain rfl := List.mem_singleton.mp hx
      exact ⟨hname, hoffset⟩
  owned := by
    intro r hr
    obtain ⟨x, hx, hid⟩ := h.owned r hr
    rw [h.experiments_withExperiment]
    exact ⟨x, List.mem_append_left _ hx, hid⟩
  readable := h.readable

/-- The tables with `x` in the place of the experiment that has its number. -/
def replacing (t : Tables) (x : Experiment) : Tables :=
  { t with experimentTable := t.experimentTable.insert x.id.value x }

theorem WellFormed.experiments_replacing (h : t.WellFormed) {x : Experiment}
    (hmem : ∃ e ∈ t.experiments, e.id = x.id) :
    (t.replacing x).experiments = t.experiments.map fun e => if e.id = x.id then x else e := by
  simp only [ExperimentId.ext_iff] at hmem ⊢
  exact h.experimentsFiled.values_insert hmem

theorem WellFormed.updateExperiment_eq (h : t.WellFormed) {x : Experiment}
    (hx : ∀ e ∈ t.experiments, e.id ≠ x.id → e.shortname ≠ x.shortname)
    (hmem : ∃ e ∈ t.experiments, e.id = x.id) :
    t.updateExperiment x = .ok (t.replacing x) := by
  have hfree : ¬(t.experiments.any fun e => e.id != x.id && e.shortname == x.shortname) = true := by
    rw [List.any_eq_true]
    rintro ⟨e, he, hsame⟩
    rw [Bool.and_eq_true, bne_iff_ne, beq_iff_eq] at hsame
    exact hx e he hsame.1 hsame.2
  rw [updateExperiment, if_neg hfree, if_pos (h.contains_experiment_iff.mpr hmem)]
  rfl

theorem Managed.replacing (h : t.Managed) {x : Experiment}
    (hx : ∀ e ∈ t.experiments, e.id ≠ x.id → e.shortname ≠ x.shortname)
    (hmem : ∃ e ∈ t.experiments, e.id = x.id) (hadmitted : Admitted x) :
    (t.replacing x).Managed where
  experimentsFiled := by
    refine h.experimentsFiled.insert ?_
    simp only [ExperimentId.ext_iff] at hmem
    exact hmem
  shortnames := by
    rw [h.experiments_replacing hmem]
    exact nodup_map_replace h.experimentIds h.shortnames hx
  conditionsFiled := h.conditionsFiled
  condsets := h.condsets
  admitted := by
    intro y hy
    rcases SortedMap.eq_or_mem_of_mem_values_insert hy with rfl | hy
    · exact hadmitted
    · exact h.admitted y hy
  owned := by
    intro r hr
    obtain ⟨y, hy, hid⟩ := h.owned r hr
    have hkeys : y.id ∈ (t.replacing x).experiments.map Experiment.id := by
      rw [h.experiments_replacing hmem, map_key_replace]
      exact List.mem_map_of_mem hy
    obtain ⟨z, hz, hzid⟩ := List.mem_map.mp hkeys
    exact ⟨z, hz, hzid.trans hid⟩
  readable := h.readable

/-- The tables with only those conditions that pass a test. -/
def keeping (t : Tables) (p : ConditionRecord → Bool) : Tables :=
  { t with conditionTable := t.conditionTable.filter p }

theorem conditions_keeping (t : Tables) (p : ConditionRecord → Bool) :
    (t.keeping p).conditions = t.conditions.filter p :=
  t.conditionTable.values_filter p

/-- The tables without an experiment and its conditions. -/
def without (t : Tables) (id : ExperimentId) : Tables :=
  { t.keeping fun c => c.experimentId != id with
    experimentTable := t.experimentTable.filter fun e => e.id != id }

theorem experiments_without (t : Tables) (id : ExperimentId) :
    (t.without id).experiments = t.experiments.filter fun e => e.id != id :=
  t.experimentTable.values_filter _

theorem WellFormed.deleteExperiment_eq (h : t.WellFormed) {id : ExperimentId}
    (hmem : ∃ e ∈ t.experiments, e.id = id) :
    (t.keeping fun c => c.experimentId != id).deleteExperiment id = .ok (t.without id) := by
  have herase : t.experimentTable.erase id.value =
      t.experimentTable.filter fun e => e.id != id := by
    rw [h.experimentsFiled.erase_eq_filter]
    refine congrArg t.experimentTable.filter (funext fun e => ?_)
    rw [Bool.eq_iff_iff, bne_iff_ne, bne_iff_ne, ne_eq, ne_eq, ExperimentId.ext_iff]
  rw [deleteExperiment, without, ← herase]
  exact if_pos (h.contains_experiment_iff.mpr hmem)

theorem Managed.keeping (h : t.Managed) (p : ConditionRecord → Bool) : (t.keeping p).Managed := by
  have hsub : ∀ r ∈ (t.keeping p).conditions, r ∈ t.conditions := by
    rw [conditions_keeping]
    exact fun r => List.mem_of_mem_filter
  refine
    { experimentsFiled := h.experimentsFiled
      shortnames := h.shortnames
      conditionsFiled := h.conditionsFiled.filter p
      condsets := ?_
      admitted := h.admitted
      owned := fun r hr => h.owned r (hsub r hr)
      readable := fun r hr => h.readable r (hsub r hr) }
  rw [conditions_keeping]
  exact h.condsets.sublist (List.filter_sublist.map _)

theorem Managed.without (h : t.Managed) (id : ExperimentId) : (t.without id).Managed := by
  have hkept := h.keeping fun c => c.experimentId != id
  refine
    { experimentsFiled := h.experimentsFiled.filter fun e => e.id != id
      shortnames := ?_
      conditionsFiled := hkept.conditionsFiled
      condsets := hkept.condsets
      admitted := fun x hx => ?_
      owned := fun r hr => ?_
      readable := hkept.readable }
  · rw [experiments_without]
    exact h.shortnames.sublist (List.filter_sublist.map _)
  · rw [experiments_without] at hx
    exact h.admitted x (List.mem_of_mem_filter hx)
  · obtain ⟨x, hx, hid⟩ := hkept.owned r hr
    have hother : (r.experimentId != id) = true := by
      have hr' : r ∈ (t.keeping fun c => c.experimentId != id).conditions := hr
      rw [conditions_keeping] at hr'
      exact (List.mem_filter.mp hr').2
    rw [experiments_without]
    exact ⟨x, List.mem_filter.mpr ⟨hx, hid ▸ hother⟩, hid⟩

/-! ## Conditions come and go -/

/-- The tables with one more condition. -/
def withCondition (t : Tables) (id : ExperimentId) (fields : ConditionFields) : Tables :=
  { t with
    conditionTable := t.conditionTable.insert (t.lastCondition + 1 : Nat)
      ⟨⟨(t.lastCondition + 1 : Nat)⟩, id, fields⟩
    lastCondition := t.lastCondition + 1 }

theorem WellFormed.conditions_withCondition (h : t.WellFormed) (id : ExperimentId)
    (fields : ConditionFields) : (t.withCondition id fields).conditions =
      t.conditions ++ [⟨⟨(t.lastCondition + 1 : Nat)⟩, id, fields⟩] :=
  h.conditionsFiled.values_insert_next _

theorem insertCondition_eq (id : ExperimentId) (fields : ConditionFields) :
    t.insertCondition id fields =
      if (t.conditionNamed? id fields.condset).isSome then
        .error (.alreadyExists .condition fields.condset)
      else .ok (⟨(t.lastCondition + 1 : Nat)⟩, t.withCondition id fields) := by
  have hany : (t.conditions.any fun c =>
        c.experimentId == id && c.fields.condset == fields.condset) =
      (t.conditionNamed? id fields.condset).isSome := by
    rw [conditionNamed?, Bool.eq_iff_iff, List.any_eq_true, List.find?_isSome]
  rw [insertCondition, hany]
  rfl

/-- A condition that was added stands under the next number. -/
theorem insertCondition_eq_ok {id : ExperimentId} {fields : ConditionFields} {new : ConditionId}
    {t' : Tables} (h : t.insertCondition id fields = .ok (new, t')) :
    new = ⟨(t.lastCondition + 1 : Nat)⟩ ∧ t' = t.withCondition id fields := by
  rw [insertCondition_eq] at h
  split at h
  · cases h
  · cases h
    exact ⟨rfl, rfl⟩

theorem Managed.withCondition (h : t.Managed) {id : ExperimentId} {fields : ConditionFields}
    (hnew : t.conditionNamed? id fields.condset = none)
    (howner : ∃ x ∈ t.experiments, x.id = id)
    (hread : ∃ l : CommandList, fields.commands = l.stored) :
    (t.withCondition id fields).Managed where
  experimentsFiled := h.experimentsFiled
  shortnames := h.shortnames
  conditionsFiled := h.conditionsFiled.insert_next rfl
  condsets := by
    rw [h.conditions_withCondition]
    refine nodup_map_concat h.condsets fun r hr hname => ?_
    have hsome := isSome_conditionNamed?_iff.mpr ⟨r, hr, hname⟩
    rw [hnew] at hsome
    cases hsome
  admitted := h.admitted
  owned := by
    intro r hr
    rcases SortedMap.eq_or_mem_of_mem_values_insert hr with rfl | hr
    · exact howner
    · exact h.owned r hr
  readable := by
    intro r hr
    rcases SortedMap.eq_or_mem_of_mem_values_insert hr with rfl | hr
    · exact hread
    · exact h.readable r hr

/-- The tables with `r` in the place of the condition that has its number. -/
def rewriting (t : Tables) (r : ConditionRecord) : Tables :=
  { t with conditionTable := t.conditionTable.insert r.id.value r }

theorem WellFormed.conditions_rewriting (h : t.WellFormed) {r : ConditionRecord}
    (hmem : ∃ c ∈ t.conditions, c.id = r.id) :
    (t.rewriting r).conditions = t.conditions.map fun c => if c.id = r.id then r else c := by
  simp only [ConditionId.ext_iff] at hmem ⊢
  exact h.conditionsFiled.values_insert hmem

theorem WellFormed.updateCondition_eq (h : t.WellFormed) {r : ConditionRecord}
    (hr : ∀ c ∈ t.conditions, c.id ≠ r.id → c.name ≠ r.name)
    (hmem : ∃ c ∈ t.conditions, c.id = r.id) :
    t.updateCondition r = .ok (t.rewriting r) := by
  have hfree : ¬(t.conditions.any fun c => c.id != r.id && c.experimentId == r.experimentId &&
      c.fields.condset == r.fields.condset) = true := by
    rw [List.any_eq_true]
    rintro ⟨c, hc, hsame⟩
    rw [Bool.and_eq_true, Bool.and_eq_true, bne_iff_ne, beq_iff_eq, beq_iff_eq] at hsame
    obtain ⟨⟨hid, howner⟩, hcondset⟩ := hsame
    exact hr c hc hid (Prod.ext howner hcondset)
  rw [updateCondition, if_neg hfree, if_pos (h.contains_condition_iff.mpr hmem)]
  rfl

/-- A condition that was replaced stands under its number. -/
theorem updateCondition_eq_ok {r : ConditionRecord} {t' : Tables}
    (h : t.updateCondition r = .ok t') : t' = t.rewriting r := by
  unfold updateCondition at h
  split at h
  · cases h
  split at h
  · cases h
    rfl
  · cases h

theorem Managed.rewriting (h : t.Managed) {r : ConditionRecord}
    (hr : ∀ c ∈ t.conditions, c.id ≠ r.id → c.name ≠ r.name)
    (hmem : ∃ c ∈ t.conditions, c.id = r.id) (howner : ∃ x ∈ t.experiments, x.id = r.experimentId)
    (hread : r.Readable) : (t.rewriting r).Managed where
  experimentsFiled := h.experimentsFiled
  shortnames := h.shortnames
  conditionsFiled := by
    refine h.conditionsFiled.insert ?_
    simp only [ConditionId.ext_iff] at hmem
    exact hmem
  condsets := by
    rw [h.conditions_rewriting hmem]
    exact nodup_map_replace h.conditionIds h.condsets hr
  admitted := h.admitted
  owned := by
    intro c hc
    rcases SortedMap.eq_or_mem_of_mem_values_insert hc with rfl | hc
    · exact howner
    · exact h.owned c hc
  readable := by
    intro c hc
    rcases SortedMap.eq_or_mem_of_mem_values_insert hc with rfl | hc
    · exact hread
    · exact h.readable c hc

theorem WellFormed.deleteCondition_eq (h : t.WellFormed) {id : ConditionId}
    (hmem : ∃ c ∈ t.conditions, c.id = id) :
    t.deleteCondition id = .ok (t.keeping fun c => c.id != id) := by
  have herase : t.conditionTable.erase id.value = t.conditionTable.filter fun c => c.id != id := by
    rw [h.conditionsFiled.erase_eq_filter]
    refine congrArg t.conditionTable.filter (funext fun c => ?_)
    rw [Bool.eq_iff_iff, bne_iff_ne, bne_iff_ne, ne_eq, ne_eq, ConditionId.ext_iff]
  rw [deleteCondition, if_pos (h.contains_condition_iff.mpr hmem), herase]
  rfl

end

end Tables

end SplitTest.Store

import SplitTest.Proofs.Store.Intact

/-!
# What a manager refuses

`Tables.Refuses` lists the grounds on which a call is refused, each with its error, in terms
of the stored rows alone.  Of several grounds the first in the order of the list counts:
each rule says that those before it do not hold.

A manager refuses exactly on these grounds (`refusal_law`), since what the store checks once
more was checked before.  A refused call leaves no trace but a forgotten cache, and every
call that may write forgets the cache, refused or not.
-/

namespace SplitTest.Store

namespace Tables

/-- An experiment has a shortname. -/
def HasName (t : Tables) (shortname : String) : Prop :=
  ∃ x ∈ t.experiments, x.shortname = shortname

/-- An experiment has a number. -/
def HasExperiment (t : Tables) (id : ExperimentId) : Prop := ∃ x ∈ t.experiments, x.id = id

/-- An experiment has a condition of a name. -/
def HasCondset (t : Tables) (id : ExperimentId) (condset : String) : Prop :=
  ∃ r ∈ t.conditions, r.experimentId = id ∧ r.fields.condset = condset

/-- The grounds on which calls are refused, and the errors that they are refused with. -/
inductive Refuses (t : Tables) : ManagerCall → StoreError → Prop where
  | add_badName {name shortname : String} {scope : Scope} {offset : Fin 100} :
      ¬IsName shortname →
      t.Refuses (.addExperiment name shortname scope offset) (.invalid (.shortname shortname))
  | add_taken {name shortname : String} {scope : Scope} {offset : Fin 100} :
      IsName shortname → t.HasName shortname →
      t.Refuses (.addExperiment name shortname scope offset)
        (.alreadyExists .experiment shortname)
  | update_missing {previous : String} {u : ExperimentUpdate} : ¬t.HasName previous →
      t.Refuses (.updateExperiment previous u) (.notFound .experiment previous)
  | update_badName {previous : String} {u : ExperimentUpdate} :
      t.HasName previous → ¬IsName u.shortname →
      t.Refuses (.updateExperiment previous u) (.invalid (.shortname u.shortname))
  | update_badOffset {previous : String} {u : ExperimentUpdate} :
      t.HasName previous → IsName u.shortname → ¬(0 ≤ u.numericOffset ∧ u.numericOffset ≤ 99) →
      t.Refuses (.updateExperiment previous u) (.invalid (.offset u.numericOffset))
  | update_taken {previous : String} {u : ExperimentUpdate} :
      t.HasName previous → IsName u.shortname → 0 ≤ u.numericOffset ∧ u.numericOffset ≤ 99 →
      u.shortname ≠ previous → t.HasName u.shortname →
      t.Refuses (.updateExperiment previous u) (.alreadyExists .experiment u.shortname)
  | delete_missing {shortname : String} : ¬t.HasName shortname →
      t.Refuses (.deleteExperiment shortname) (.notFound .experiment shortname)
  | addCondition_missing {id : ExperimentId} {input : ConditionInput} : ¬t.HasExperiment id →
      t.Refuses (.addCondition id input) (.notFound .experiment (Text.ofInt id.value))
  | addCondition_taken {id : ExperimentId} {input : ConditionInput} :
      t.HasExperiment id → t.HasCondset id input.condset →
      t.Refuses (.addCondition id input) (.alreadyExists .condition input.condset)
  | updateCondition_noOwner {id : ExperimentId} {previous : String} {input : ConditionInput} :
      ¬t.HasExperiment id →
      t.Refuses (.updateCondition id previous input)
        (.notFound .experiment (Text.ofInt id.value))
  | updateCondition_missing {id : ExperimentId} {previous : String} {input : ConditionInput} :
      t.HasExperiment id → ¬t.HasCondset id previous →
      t.Refuses (.updateCondition id previous input) (.notFound .condition previous)
  | updateCondition_taken {id : ExperimentId} {previous : String} {input : ConditionInput} :
      t.HasExperiment id → t.HasCondset id previous → input.condset ≠ previous →
      t.HasCondset id input.condset →
      t.Refuses (.updateCondition id previous input) (.alreadyExists .condition input.condset)
  | deleteCondition_missing {id : ExperimentId} {condset : String} : ¬t.HasCondset id condset →
      t.Refuses (.deleteCondition id condset) (.notFound .condition condset)

section
variable {t : Tables}

/-! ## Grounds and lookups -/

theorem isShortname_eq_false_iff {s : String} : isShortname s = false ↔ ¬IsName s := by
  rw [← isShortname_iff, Bool.not_eq_true]

theorem isSome_named?_iff {shortname : String} :
    (t.catalog.named? shortname).isSome = true ↔ t.HasName shortname := by
  rw [catalog_named?, Option.isSome_map, isSome_experimentNamed?_iff]
  rfl

theorem isSome_numbered?_iff {id : ExperimentId} :
    (t.catalog.numbered? id).isSome = true ↔ t.HasExperiment id := by
  rw [numbered?_eq_find?, Option.isSome_map, List.find?_isSome]
  simp only [beq_iff_eq]
  rfl

theorem isSome_listing_condition?_iff {x : Listing} {id : ExperimentId} {condset : String}
    (hx : t.catalog.numbered? id = some x) :
    (x.condition? condset).isSome = true ↔ t.HasCondset id condset := by
  rw [numbered?_eq_find?, Option.map_eq_some_iff] at hx
  obtain ⟨e, he, rfl⟩ := hx
  have hid : e.id = id := by simpa using List.find?_some he
  rw [listing_condition?, Option.isSome_map, hid, isSome_conditionNamed?_iff]
  exact exists_congr fun r => and_congr_right fun _ => Prod.ext_iff

theorem exists_named?_iff {shortname : String} :
    (∃ x, t.catalog.named? shortname = some x) ↔ t.HasName shortname := by
  rw [← isSome_named?_iff, Option.isSome_iff_exists]

theorem named?_eq_none_iff {shortname : String} :
    t.catalog.named? shortname = none ↔ ¬t.HasName shortname := by
  rw [← isSome_named?_iff, Option.not_isSome_iff_eq_none]

theorem exists_numbered?_iff {id : ExperimentId} :
    (∃ x, t.catalog.numbered? id = some x) ↔ t.HasExperiment id := by
  rw [← isSome_numbered?_iff, Option.isSome_iff_exists]

theorem numbered?_eq_none_iff {id : ExperimentId} :
    t.catalog.numbered? id = none ↔ ¬t.HasExperiment id := by
  rw [← isSome_numbered?_iff, Option.not_isSome_iff_eq_none]

theorem Managed.isSome_condition?_iff (h : t.Managed) {id : ExperimentId} {condset : String} :
    ((t.catalog.numbered? id).bind fun x => x.condition? condset).isSome = true ↔
      t.HasCondset id condset := by
  rw [h.catalog_condition?, Option.isSome_map, isSome_conditionNamed?_iff]
  exact exists_congr fun r => and_congr_right fun _ => Prod.ext_iff

/-! ## Grounds and steps -/

/-- A step that fails has a ground to, and fails with its error. -/
theorem Managed.refuses_of_step (h : t.Managed) {call : ManagerCall} {e : StoreError}
    (he : t.catalog.step call = .error e) : t.Refuses call e := by
  cases call with
  | addExperiment name shortname scope offset =>
    simp only [Catalog.step, Catalog.addExperiment] at he
    split at he
    · next hname =>
      cases he
      exact .add_badName (isShortname_eq_false_iff.mp hname)
    next hname =>
    have hname := isShortname_iff.mp ((Bool.not_eq_false _).mp hname)
    split at he
    · next htaken =>
      cases he
      exact .add_taken hname (isSome_named?_iff.mp htaken)
    · cases he
  | updateExperiment previous u =>
    simp only [Catalog.step, Catalog.updateExperiment] at he
    split at he
    · next hnone =>
      cases he
      exact .update_missing (named?_eq_none_iff.mp hnone)
    next x hx =>
    have hprevious := exists_named?_iff.mp ⟨x, hx⟩
    split at he
    · next hname =>
      cases he
      exact .update_badName hprevious (isShortname_eq_false_iff.mp hname)
    next hname =>
    have hname := isShortname_iff.mp ((Bool.not_eq_false _).mp hname)
    split at he
    · next hoffset =>
      cases he
      exact .update_badOffset hprevious hname hoffset
    next hoffset =>
    split at he
    · next htaken =>
      cases he
      exact .update_taken hprevious hname (not_not.mp hoffset) htaken.1
        (isSome_named?_iff.mp htaken.2)
    · cases he
  | deleteExperiment shortname =>
    simp only [Catalog.step, Catalog.deleteExperiment] at he
    split at he
    · next hnone =>
      cases he
      exact .delete_missing (named?_eq_none_iff.mp hnone)
    · cases he
  | addCondition id input =>
    simp only [Catalog.step, Catalog.addCondition] at he
    split at he
    · next hnone =>
      cases he
      exact .addCondition_missing (numbered?_eq_none_iff.mp hnone)
    next x hx =>
    split at he
    · next htaken =>
      cases he
      exact .addCondition_taken (exists_numbered?_iff.mp ⟨x, hx⟩)
        ((isSome_listing_condition?_iff hx).mp htaken)
    · cases he
  | updateCondition id previous input =>
    simp only [Catalog.step, Catalog.updateCondition] at he
    split at he
    · next hnone =>
      cases he
      exact .updateCondition_noOwner (numbered?_eq_none_iff.mp hnone)
    next x hx =>
    have howner := exists_numbered?_iff.mp ⟨x, hx⟩
    split at he
    · next hnone =>
      cases he
      refine .updateCondition_missing howner fun hhas => ?_
      exact Option.not_isSome_iff_eq_none.mpr hnone ((isSome_listing_condition?_iff hx).mpr hhas)
    next z hz =>
    have hprevious := (isSome_listing_condition?_iff hx).mp (Option.isSome_of_eq_some hz)
    split at he
    · next htaken =>
      cases he
      exact .updateCondition_taken howner hprevious htaken.1
        ((isSome_listing_condition?_iff hx).mp htaken.2)
    · cases he
  | deleteCondition id condset =>
    simp only [Catalog.step, Catalog.deleteCondition] at he
    split at he
    · next hnone =>
      cases he
      refine .deleteCondition_missing fun hhas => ?_
      exact Option.not_isSome_iff_eq_none.mpr hnone (h.isSome_condition?_iff.mpr hhas)
    · cases he
  | deleteAllConditions id => cases he
  | snapshot => cases he
  | invalidate => cases he

/-- On every ground a step fails with the error of the ground. -/
theorem Managed.step_of_refuses (h : t.Managed) {call : ManagerCall} {e : StoreError}
    (hr : t.Refuses call e) : t.catalog.step call = .error e := by
  cases hr with
  | add_badName hbad =>
    rw [Catalog.step, Catalog.addExperiment, if_pos (isShortname_eq_false_iff.mpr hbad)]
    rfl
  | add_taken hname htaken =>
    rw [Catalog.step, Catalog.addExperiment,
      if_neg (mt isShortname_eq_false_iff.mp (not_not.mpr hname)),
      if_pos (isSome_named?_iff.mpr htaken)]
    rfl
  | update_missing hmissing =>
    rw [Catalog.step, Catalog.updateExperiment, named?_eq_none_iff.mpr hmissing]
    rfl
  | update_badName hprevious hbad =>
    obtain ⟨x, hx⟩ := exists_named?_iff.mpr hprevious
    simp only [Catalog.step, Catalog.updateExperiment, hx]
    rw [if_pos (isShortname_eq_false_iff.mpr hbad)]
    rfl
  | update_badOffset hprevious hname hbad =>
    obtain ⟨x, hx⟩ := exists_named?_iff.mpr hprevious
    simp only [Catalog.step, Catalog.updateExperiment, hx]
    rw [if_neg (mt isShortname_eq_false_iff.mp (not_not.mpr hname)), if_pos hbad]
    rfl
  | update_taken hprevious hname hoffset hother htaken =>
    obtain ⟨x, hx⟩ := exists_named?_iff.mpr hprevious
    simp only [Catalog.step, Catalog.updateExperiment, hx]
    rw [if_neg (mt isShortname_eq_false_iff.mp (not_not.mpr hname)), if_neg (not_not.mpr hoffset),
      if_pos ⟨hother, isSome_named?_iff.mpr htaken⟩]
    rfl
  | delete_missing hmissing =>
    rw [Catalog.step, Catalog.deleteExperiment, named?_eq_none_iff.mpr hmissing]
    rfl
  | addCondition_missing hmissing =>
    rw [Catalog.step, Catalog.addCondition, numbered?_eq_none_iff.mpr hmissing]
    rfl
  | addCondition_taken howner htaken =>
    obtain ⟨x, hx⟩ := exists_numbered?_iff.mpr howner
    simp only [Catalog.step, Catalog.addCondition, hx]
    rw [if_pos ((isSome_listing_condition?_iff hx).mpr htaken)]
    rfl
  | updateCondition_noOwner hmissing =>
    rw [Catalog.step, Catalog.updateCondition, numbered?_eq_none_iff.mpr hmissing]
    rfl
  | updateCondition_missing howner hmissing =>
    obtain ⟨x, hx⟩ := exists_numbered?_iff.mpr howner
    have hnone := Option.not_isSome_iff_eq_none.mp
      (mt (isSome_listing_condition?_iff hx).mp hmissing)
    simp only [Catalog.step, Catalog.updateCondition, hx, hnone]
    rfl
  | updateCondition_taken howner hprevious hother htaken =>
    obtain ⟨x, hx⟩ := exists_numbered?_iff.mpr howner
    obtain ⟨z, hz⟩ := Option.isSome_iff_exists.mp
      ((isSome_listing_condition?_iff hx).mpr hprevious)
    simp only [Catalog.step, Catalog.updateCondition, hx, hz]
    rw [if_pos ⟨hother, (isSome_listing_condition?_iff hx).mpr htaken⟩]
    rfl
  | deleteCondition_missing hmissing =>
    have hnone := Option.not_isSome_iff_eq_none.mp (mt h.isSome_condition?_iff.mp hmissing)
    rw [Catalog.step, Catalog.deleteCondition, hnone]
    rfl

/-- **A step fails exactly on the grounds listed**, and with their errors. -/
theorem Managed.step_eq_error_iff (h : t.Managed) {call : ManagerCall} {e : StoreError} :
    t.catalog.step call = .error e ↔ t.Refuses call e :=
  ⟨h.refuses_of_step, h.step_of_refuses⟩

end

end Tables

/-! ## What is left of a call -/

/-- **A call that may write forgets the cache, and one that fails leaves all the rest.** -/
theorem Manager.Serves.left {m : Manager} {c : Catalog} (h : m.Serves c) {call : ManagerCall}
    (hcall : call ≠ .snapshot) :
    (call.action.runOn m).2.cache = m.cache.invalidate ∧
      ∀ e, (call.action.runOn m).1 = .error e → (call.action.runOn m).2 = m.invalidate := by
  have hfollows := h.follows hcall
  cases hstep : c.step call with
  | error e =>
    rw [hstep] at hfollows
    have hrun : call.action.runOn m = (.error e, m.invalidate) := hfollows
    rw [hrun]
    exact ⟨rfl, fun _ _ => rfl⟩
  | ok r =>
    rw [hstep] at hfollows
    obtain ⟨tables, audit, events, hrun, -, -⟩ := hfollows
    rw [hrun]
    refine ⟨rfl, ?_⟩
    rintro e ⟨⟩

/-- **What a manager refuses, and what a refusal leaves.**  After any history of a new
store's manager a call fails exactly if there is a ground to refuse it, and with the error of
that ground.  It then leaves the tables, the last numbers, the audit log and everything else
as it found them, but for the cache, which every call other than a snapshot forgets. -/
theorem refusal_law (lifetime : Option Nat) (sink : AuditSink) (overlap : Bool)
    (steps : List ManagerStep) (call : ManagerCall) :
    let m := (Manager.fresh lifetime sink overlap).through steps
    let r := call.action.runOn m
    let forgotten : Cache Dataset := ⟨none, m.cache.generation + 1⟩
    (∀ e, r.1 = .error e ↔ m.tables.Refuses call e) ∧
      (∀ e, r.1 = .error e → r.2 = { m with cache := forgotten }) ∧
      (call = .snapshot ∨ r.2.cache = forgotten) := by
  intro m r forgotten
  have hserves : m.Serves m.tables.catalog := Manager.serves_through lifetime sink overlap steps
  have hfails : ∀ e, r.1 = .error e ↔ m.tables.Refuses call e := by
    intro e
    have hanswer : r.1 = (m.tables.catalog.step call).map Prod.fst := (hserves.step call).1
    rw [hanswer, ← hserves.managed.step_eq_error_iff]
    cases m.tables.catalog.step call with
    | error e' => simp only [Except.map, Except.error.injEq]
    | ok a => simp only [Except.map, reduceCtorEq]
  by_cases hcall : call = .snapshot
  · refine ⟨hfails, fun e he => ?_, Or.inl hcall⟩
    -- there is no ground to refuse a snapshot
    rw [hcall] at hfails
    cases (hfails e).mp he
  · exact ⟨hfails, (hserves.left hcall).2, Or.inr (hserves.left hcall).1⟩

end SplitTest.Store

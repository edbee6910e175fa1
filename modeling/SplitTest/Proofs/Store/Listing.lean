import SplitTest.Proofs.Json.Stored
import SplitTest.Proofs.Store.Catalog
import SplitTest.Proofs.Store.Tables

/-!
# The catalog of tables

`Tables.catalog` reads tables as a catalog: every experiment with the conditions that are
stored under its number, decoded.  Looking up in the catalog is looking up in the tables,
and each way in which managed tables change is an edit of the catalog.
-/

namespace SplitTest.Store

/-! ## Records -/

/-- The condition that a readable record stands for. -/
def ConditionRecord.content (r : ConditionRecord) : Condition where
  id := r.id
  experimentId := r.experimentId
  condset := r.fields.condset
  allowList := .parse r.fields.allowList
  commands := match CommandList.ofStored r.fields.commands with
    | .ok l => l
    | .error _ => ⟨[]⟩
  weight := r.fields.weight
  users := r.fields.users

theorem ConditionRecord.Readable.decode {r : ConditionRecord} (h : r.Readable) :
    r.decode = .ok r.content := by
  obtain ⟨l, hl⟩ := h
  have hread : CommandList.ofStored r.fields.commands = .ok l := by
    rw [hl, CommandList.ofStored_stored]
  rw [ConditionRecord.decode, ConditionRecord.content, hread]

/-- Readable records decode, every one. -/
theorem ConditionRecord.decodeAll_of_readable {rs : List ConditionRecord}
    (h : ∀ r ∈ rs, r.Readable) : decodeAll rs = .ok (rs.map content) := by
  induction rs with
  | nil => rfl
  | cons r rs ih =>
    have hrest := ih fun r' hr' => h r' (List.mem_cons_of_mem r hr')
    simp only [decodeAll, (h r List.mem_cons_self).decode, hrest, List.map_cons]

theorem ConditionInput.readable_fields (input : ConditionInput) :
    ∃ l : CommandList, input.fields.commands = l.stored :=
  ⟨input.commandList, rfl⟩

/-- **What is stored for an input stands for the condition that the input becomes.** -/
theorem ConditionInput.content_fields (input : ConditionInput) (id : ConditionId)
    (owner : ExperimentId) :
    (⟨id, owner, input.fields⟩ : ConditionRecord).content = input.condition id owner := by
  have hread : CommandList.ofStored input.fields.commands =
      .ok (.ofAuthoringText input.commands) := CommandList.ofStored_stored _
  rw [ConditionRecord.content, hread]
  rfl

/-! ## Tables -/

namespace Tables

/-- An experiment with the conditions that are stored under its number. -/
def listing (t : Tables) (x : Experiment) : Listing :=
  ⟨x, (t.conditionsOf x.id).map ConditionRecord.content⟩

/-- The catalog that tables stand for. -/
def catalog (t : Tables) : Catalog :=
  ⟨t.experiments.map t.listing, t.lastExperiment, t.lastCondition⟩

section
variable {t : Tables}

/-! ## Looking up -/

theorem catalog_named? (shortname : String) :
    t.catalog.named? shortname = (t.experimentNamed? shortname).map t.listing :=
  List.find?_map

theorem numbered?_eq_find? (id : ExperimentId) :
    t.catalog.numbered? id = (t.experiments.find? fun e => e.id == id).map t.listing :=
  List.find?_map

/-- Looking for a number is looking under it. -/
theorem WellFormed.catalog_numbered? (h : t.WellFormed) (id : ExperimentId) :
    t.catalog.numbered? id = (t.experiment? id).map t.listing := by
  have hfound : t.experiment? id = t.experiments.find? fun e => e.id == id := by
    refine Option.ext fun x => ?_
    rw [h.experiment?_eq_some_iff, find?_eq_some_iff_of_nodup h.experimentIds]
  rw [hfound, numbered?_eq_find?]

theorem listing_condition? (x : Experiment) (condset : String) :
    (t.listing x).condition? condset =
      (t.conditionNamed? x.id condset).map ConditionRecord.content := by
  rw [Listing.condition?, listing, conditionsOf, List.find?_map, List.find?_filter]
  simp only [Bool.decide_and, Bool.decide_eq_true]
  rfl

/-- A condition that is stored has an experiment, so looking for that first changes
nothing. -/
theorem Managed.catalog_condition? (h : t.Managed) (id : ExperimentId) (condset : String) :
    ((t.catalog.numbered? id).bind fun x => x.condition? condset) =
      (t.conditionNamed? id condset).map ConditionRecord.content := by
  rw [h.catalog_numbered?]
  cases howner : t.experiment? id with
  | some x =>
    obtain ⟨-, rfl⟩ := h.experiment?_eq_some_iff.mp howner
    exact listing_condition? x condset
  | none =>
    cases hr : t.conditionNamed? id condset with
    | none => rfl
    | some r =>
      obtain ⟨hmem, rfl, -⟩ := h.conditionNamed?_eq_some_iff.mp hr
      obtain ⟨x, hx, hid⟩ := h.owned r hmem
      rw [h.experiment?_eq_some_iff.mpr ⟨hx, hid⟩] at howner
      cases howner

/-! ## Editing -/

/-- Tables whose conditions changed under one number stand for an edited catalog. -/
theorem catalog_edit {t' : Tables} {id : ExperimentId} {f : Listing → Listing}
    (hexperiments : t'.experiments = t.experiments)
    (hlast : t'.lastExperiment = t.lastExperiment)
    (hf : ∀ x ∈ t.experiments, t'.listing x = if x.id = id then f (t.listing x) else t.listing x) :
    t'.catalog = { t.catalog.edit id f with lastCondition := t'.lastCondition } := by
  have hlistings : t'.experiments.map t'.listing = (t.catalog.edit id f).listings := by
    rw [hexperiments, Catalog.edit, catalog, List.map_map]
    exact List.map_congr_left hf
  rw [catalog, hlistings, hlast]
  rfl

theorem catalog_withExperiment (h : t.Managed) (d : ExperimentDraft) :
    (t.withExperiment d).catalog =
      { t.catalog with
        listings := t.catalog.listings ++ [⟨d.withId ⟨(t.lastExperiment + 1 : Nat)⟩, []⟩]
        lastExperiment := t.lastExperiment + 1 } := by
  -- no condition waits for a number that was not given out
  have hnone : t.conditionsOf ⟨(t.lastExperiment + 1 : Nat)⟩ = [] := by
    refine List.filter_eq_nil_iff.mpr fun r hr hid => ?_
    obtain ⟨x, hx, hxr⟩ := h.owned r hr
    have hle := h.experiment_le hx
    rw [hxr, beq_iff_eq.mp hid] at hle
    have hlt : ((t.lastExperiment + 1 : Nat) : Int) ≤ t.lastExperiment := hle
    omega
  have hlisting : (t.withExperiment d).listing (d.withId ⟨(t.lastExperiment + 1 : Nat)⟩) =
      ⟨d.withId ⟨(t.lastExperiment + 1 : Nat)⟩, []⟩ :=
    congrArg (Listing.mk _) (congrArg (List.map ConditionRecord.content) hnone)
  rw [catalog, h.experiments_withExperiment, List.map_append, List.map_singleton]
  exact congrArg (fun x => (⟨t.experiments.map t.listing ++ [x], _, _⟩ : Catalog)) hlisting

theorem catalog_replacing (h : t.WellFormed) {x : Experiment}
    (hmem : ∃ e ∈ t.experiments, e.id = x.id) :
    (t.replacing x).catalog = t.catalog.edit x.id fun y => { y with experiment := x } := by
  have hlistings : (t.replacing x).experiments.map (t.replacing x).listing =
      (t.catalog.edit x.id fun y => { y with experiment := x }).listings := by
    rw [h.experiments_replacing hmem, Catalog.edit, catalog, List.map_map, List.map_map]
    refine List.map_congr_left fun e _ => ?_
    show t.listing (if e.id = x.id then x else e) =
      if e.id = x.id then { t.listing e with experiment := x } else t.listing e
    split
    · next hid => rw [listing, listing, hid]
    · rfl
  exact congrArg (fun l => (⟨l, _, _⟩ : Catalog)) hlistings

theorem catalog_without (id : ExperimentId) :
    (t.without id).catalog =
      { t.catalog with listings := t.catalog.listings.filter fun y => y.experiment.id != id } := by
  have hlistings : (t.without id).experiments.map (t.without id).listing =
      (t.experiments.map t.listing).filter fun y => y.experiment.id != id := by
    rw [List.filter_map, experiments_without]
    refine List.map_congr_left fun e he => ?_
    obtain ⟨-, hne⟩ := List.mem_filter.mp he
    -- of another experiment no condition is removed
    have hkept : (t.without id).conditionsOf e.id = t.conditionsOf e.id := by
      have hconditions : (t.without id).conditions = _ := t.conditions_keeping _
      rw [conditionsOf, hconditions, List.filter_filter]
      refine List.filter_congr fun c _ => ?_
      by_cases hc : c.experimentId = e.id
      · rw [hc, hne, Bool.and_true]
      · rw [beq_eq_false_iff_ne.mpr hc, Bool.false_and]
    exact congrArg (fun l => (⟨e, l.map ConditionRecord.content⟩ : Listing)) hkept
  exact congrArg (fun l => (⟨l, _, _⟩ : Catalog)) hlistings

theorem catalog_withCondition (h : t.WellFormed) (id : ExperimentId) (fields : ConditionFields) :
    (t.withCondition id fields).catalog =
      { t.catalog.edit id fun y =>
          { y with conditions := y.conditions ++
              [(⟨⟨(t.lastCondition + 1 : Nat)⟩, id, fields⟩ : ConditionRecord).content] } with
        lastCondition := t.lastCondition + 1 } := by
  refine catalog_edit rfl rfl fun x _ => ?_
  have hof : (t.withCondition id fields).conditionsOf x.id = t.conditionsOf x.id ++
      if x.id = id then [⟨⟨(t.lastCondition + 1 : Nat)⟩, id, fields⟩] else [] := by
    rw [conditionsOf, h.conditions_withCondition, List.filter_append, conditionsOf]
    by_cases hx : x.id = id
    · rw [if_pos hx, List.filter_cons_of_pos (by rw [hx]; exact beq_self_eq_true id)]
      rfl
    · rw [if_neg hx, List.filter_cons_of_neg (by simpa using Ne.symm hx)]
      rfl
  rw [listing, hof]
  split
  · rw [List.map_append]
    rfl
  · rw [List.append_nil]
    rfl

theorem catalog_rewriting (h : t.WellFormed) {r : ConditionRecord}
    (hmem : ∃ c ∈ t.conditions, c.id = r.id)
    (hr : ∀ c ∈ t.conditions, c.id = r.id → c.experimentId = r.experimentId) :
    (t.rewriting r).catalog = t.catalog.edit r.experimentId fun y =>
      { y with conditions := y.conditions.map fun w => if w.id = r.id then r.content else w } := by
  refine catalog_edit rfl rfl fun x _ => ?_
  -- a record stays under its experiment, since the one in its place has the same
  have hof : (t.rewriting r).conditionsOf x.id =
      (t.conditionsOf x.id).map fun c => if c.id = r.id then r else c := by
    rw [conditionsOf, h.conditions_rewriting hmem, List.filter_map]
    refine congrArg _ (List.filter_congr fun c hc => ?_)
    show ((if c.id = r.id then r else c).experimentId == x.id) = (c.experimentId == x.id)
    split
    · next hid => rw [hr c hc hid]
    · rfl
  have hcontent : ((t.conditionsOf x.id).map fun c => if c.id = r.id then r else c).map
        ConditionRecord.content =
      (t.listing x).conditions.map fun w => if w.id = r.id then r.content else w := by
    rw [listing, List.map_map, List.map_map]
    refine List.map_congr_left fun c _ => ?_
    show (if c.id = r.id then r else c).content = if c.id = r.id then r.content else c.content
    split <;> rfl
  rw [listing, hof]
  split
  · rw [hcontent]
    rfl
  · next hx =>
    have hsame : (t.conditionsOf x.id).map (fun c => if c.id = r.id then r else c) =
        t.conditionsOf x.id := by
      refine (List.map_congr_left fun c hc => ?_).trans (List.map_id _)
      obtain ⟨hmem, howner⟩ := mem_conditionsOf_iff.mp hc
      refine if_neg fun hid => hx ?_
      rw [← howner, hr c hmem hid]
    rw [hsame]
    rfl

theorem catalog_keeping (id : ExperimentId) {p : ConditionRecord → Bool}
    (hp : ∀ c ∈ t.conditions, c.experimentId ≠ id → p c = true) (q : Condition → Bool)
    (hq : ∀ c ∈ t.conditionsOf id, p c = q c.content) :
    (t.keeping p).catalog =
      t.catalog.edit id fun y => { y with conditions := y.conditions.filter q } := by
  refine catalog_edit rfl rfl fun x _ => ?_
  have hof : (t.keeping p).conditionsOf x.id = (t.conditionsOf x.id).filter p := by
    rw [conditionsOf, conditionsOf, conditions_keeping, List.filter_filter, List.filter_filter]
    exact List.filter_congr fun c _ => Bool.and_comm _ _
  rw [listing, hof]
  split
  · next hx =>
    rw [hx, List.filter_congr hq]
    show (⟨x, ((t.conditionsOf id).filter (q ∘ ConditionRecord.content)).map
      ConditionRecord.content⟩ : Listing) = ⟨x, ((t.conditionsOf x.id).map
        ConditionRecord.content).filter q⟩
    rw [List.filter_map, hx]
  · next hx =>
    have hall : (t.conditionsOf x.id).filter p = t.conditionsOf x.id := by
      refine List.filter_eq_self.mpr fun c hc => ?_
      obtain ⟨hmem, howner⟩ := mem_conditionsOf_iff.mp hc
      exact hp c hmem (howner ▸ hx)
    rw [hall]
    rfl

end

end Tables

end SplitTest.Store

import SplitTest.DatasetFile
import SplitTest.Proofs.Store.History
import SplitTest.Proofs.Text.Lines
import SplitTest.Proofs.UserSet

/-!
# Files that are entered

A dataset file can be read as a dataset, or entered by hand into a new store: experiment by
experiment, each added, given its conditions and then updated (`DatasetFile.enter`).  Both
come to the same (`enter_agrees_with_file`): no step is refused, and a snapshot of the store
is the dataset of the file, number by number.

What is entered is always the last listing of the catalog, so editing it leaves the listings
before it (`Catalog.edit_last`), and the numbers that the store gives out are the next ones,
as those are that the file counts.
-/

namespace SplitTest

open SplitTest.Store

/-! ## Entering -/

/-- What an operator gives for a condition of a file, its commands as text. -/
def ConditionSpec.input (c : ConditionSpec) : ConditionInput where
  condset := c.condset
  allowList := c.allowList
  commands := "\n".intercalate c.commands
  weight := c.weight
  users := c.users.ids

/-- Add conditions of a file to an experiment. -/
def ConditionSpec.enterAll (id : ExperimentId) : List ConditionSpec → Action Unit
  | [] => pure ()
  | c :: cs => do
    let _ ← Action.addCondition id c.input
    enterAll id cs

namespace ExperimentSpec

/-- What an operator gives for an experiment of a file. -/
def update (e : ExperimentSpec) : ExperimentUpdate where
  name := e.name.getD e.shortname
  shortname := e.shortname
  scope := e.scope
  enabled := e.enabled
  adminEnabled := e.adminEnabled
  numericOffset := e.numericOffset

/-- Add an experiment of a file, then its conditions, and then give it its fields. -/
def enter (e : ExperimentSpec) (offset : Fin 100) : Action Unit := do
  let id ← Action.addExperiment (e.name.getD e.shortname) e.shortname e.scope offset
  ConditionSpec.enterAll id e.conditions
  Action.updateExperiment e.shortname e.update

/-- Enter experiments in order, whatever offsets are drawn for them. -/
def enterAll (offsets : Nat → Fin 100) : List ExperimentSpec → Action Unit
  | [] => pure ()
  | e :: es => do
    e.enter (offsets 0)
    enterAll (fun n => offsets (n + 1)) es

/-- The commands of an experiment of a file are plain. -/
def IsPlain (e : ExperimentSpec) : Prop :=
  ∀ c ∈ e.conditions, ∀ line ∈ c.commands, SplitTest.IsPlain line

end ExperimentSpec

/-- Enter the experiments of a file. -/
def DatasetFile.enter (f : DatasetFile) (offsets : Nat → Fin 100) : Action Unit :=
  ExperimentSpec.enterAll offsets f.experiments

/-! ## What is entered is what the file says -/

theorem ConditionSpec.condition_input {c : ConditionSpec} (h : ∀ line ∈ c.commands, IsPlain line)
    (owner : ExperimentId) (id : Nat) : c.input.condition ⟨id⟩ owner = c.toCondition owner id := by
  rw [ConditionInput.condition, toCondition]
  simp only [input, CommandList.ofAuthoringText_join (.inl rfl) h, UserSet.ofList_ids]

/-- What a specification has that builds an entry. -/
theorem ExperimentSpec.build_eq_ok {e : ExperimentSpec} {seen : List String} {id next : Nat}
    {entry : Entry} (h : e.build seen id next = .ok entry) :
    isShortname e.shortname = true ∧ e.shortname ∉ seen ∧ e.numericOffset ≤ 99 ∧
      ∃ built, e.buildConditions id [] next e.conditions = .ok built ∧
        entry = .ofList (e.toExperiment id) built := by
  rw [build] at h
  split at h
  · cases h
  next hname =>
  split at h
  · cases h
  next hnew =>
  split at h
  · cases h
  next hoffset =>
  split at h
  · cases h
  next built hbuilt =>
  rw [Bool.not_eq_true, Bool.not_eq_false'] at hname
  exact ⟨hname, fun hmem => hnew (List.contains_iff_mem.mpr hmem), Nat.le_of_not_lt hoffset, built,
    hbuilt, (Except.ok.inj h).symm⟩

namespace Store

/-! ## The last listing of a catalog -/

namespace Catalog
variable {ls : List Listing} {y : Listing} {n k : Nat}

theorem numbered?_last (h : ∀ w ∈ ls, w.experiment.id ≠ y.experiment.id) :
    (⟨ls ++ [y], n, k⟩ : Catalog).numbered? y.experiment.id = some y := by
  have hnone : ls.find? (fun w => w.experiment.id == y.experiment.id) = none :=
    List.find?_eq_none.mpr fun w hw => by simpa using h w hw
  rw [numbered?, List.find?_append, hnone, Option.none_or, List.find?_cons, beq_self_eq_true]

theorem named?_last (h : ∀ w ∈ ls, w.experiment.shortname ≠ y.experiment.shortname) :
    (⟨ls ++ [y], n, k⟩ : Catalog).named? y.experiment.shortname = some y := by
  have hnone : ls.find? (fun w => w.experiment.shortname == y.experiment.shortname) = none :=
    List.find?_eq_none.mpr fun w hw => by simpa using h w hw
  rw [named?, List.find?_append, hnone, Option.none_or, List.find?_cons, beq_self_eq_true]

/-- **Editing the last listing leaves the others.** -/
theorem edit_last (h : ∀ w ∈ ls, w.experiment.id ≠ y.experiment.id) (f : Listing → Listing) :
    (⟨ls ++ [y], n, k⟩ : Catalog).edit y.experiment.id f = ⟨ls ++ [f y], n, k⟩ := by
  have hls : ls.map (fun w => if w.experiment.id = y.experiment.id then f w else w) = ls := by
    conv_rhs => rw [← List.map_id ls]
    exact List.map_congr_left fun w hw => if_neg (h w hw)
  rw [edit, List.map_append, hls, List.map_singleton, if_pos rfl]

theorem addExperiment_of_free {name shortname : String} {scope : Scope} {offset : Nat}
    (hname : isShortname shortname = true) (hfree : ∀ w ∈ ls, w.experiment.shortname ≠ shortname) :
    (⟨ls, n, k⟩ : Catalog).addExperiment name shortname scope offset =
      .ok (⟨(n + 1 : Nat)⟩, ⟨ls ++ [⟨⟨⟨(n + 1 : Nat)⟩, name, shortname, scope, false, false,
        offset⟩, []⟩], n + 1, k⟩) := by
  have hnot : ¬((⟨ls, n, k⟩ : Catalog).named? shortname).isSome = true := by
    rw [named?, List.find?_isSome]
    rintro ⟨w, hw, hsame⟩
    exact hfree w hw (beq_iff_eq.mp hsame)
  rw [addExperiment, if_neg ((Bool.not_eq_false _).mpr hname), if_neg hnot]

theorem addCondition_last {x : Experiment} {zs : List Condition} {input : ConditionInput}
    (h : ∀ w ∈ ls, w.experiment.id ≠ x.id) (hfree : ∀ z ∈ zs, z.condset ≠ input.condset) :
    (⟨ls ++ [⟨x, zs⟩], n, k⟩ : Catalog).addCondition x.id input =
      .ok (⟨(k + 1 : Nat)⟩,
        ⟨ls ++ [⟨x, zs ++ [input.condition ⟨(k + 1 : Nat)⟩ x.id]⟩], n, k + 1⟩) := by
  have hnot : ¬(Listing.condition? ⟨x, zs⟩ input.condset).isSome = true := by
    rw [Listing.condition?, List.find?_isSome]
    rintro ⟨z, hz, hsame⟩
    exact hfree z hz (beq_iff_eq.mp hsame)
  have hedit := edit_last (y := ⟨x, zs⟩) (n := n) (k := k) h fun y =>
    { y with conditions := y.conditions ++ [input.condition ⟨(k + 1 : Nat)⟩ x.id] }
  rw [addCondition, numbered?_last (y := ⟨x, zs⟩) h]
  simp only [hnot, Bool.false_eq_true, if_false]
  rw [hedit]

theorem updateExperiment_last {x : Experiment} {zs : List Condition} {u : ExperimentUpdate}
    (hids : ∀ w ∈ ls, w.experiment.id ≠ x.id)
    (hnames : ∀ w ∈ ls, w.experiment.shortname ≠ x.shortname) (hsame : u.shortname = x.shortname)
    (hname : isShortname u.shortname = true)
    (hoffset : 0 ≤ u.numericOffset ∧ u.numericOffset ≤ 99) :
    (⟨ls ++ [⟨x, zs⟩], n, k⟩ : Catalog).updateExperiment x.shortname u =
      .ok ((), ⟨ls ++ [⟨u.experiment x.id, zs⟩], n, k⟩) := by
  have hedit := edit_last (y := ⟨x, zs⟩) (n := n) (k := k) hids fun y =>
    { y with experiment := u.experiment x.id }
  rw [updateExperiment, named?_last (y := ⟨x, zs⟩) hnames]
  dsimp only
  rw [if_neg ((Bool.not_eq_false _).mpr hname), if_neg (not_not.mpr hoffset),
    if_neg fun htaken => htaken.1 hsame, hedit]

end Catalog

namespace Manager.Serves
variable {m : Manager} {ls : List Listing} {n k : Nat}

/-- The conditions of a listing that a manager serves have distinct condsets. -/
theorem nodup_condsets {c : Catalog} (h : m.Serves c) {y : Listing} (hy : y ∈ c.listings) :
    (y.conditions.map Condition.condset).Nodup := by
  rw [← h.catalog] at hy
  obtain ⟨x, -, rfl⟩ := List.mem_map.mp hy
  exact h.managed.nodup_condsets x

/-- The listings that a manager serves have distinct shortnames. -/
theorem nodup_shortnames {c : Catalog} (h : m.Serves c) :
    (c.listings.map fun y => y.experiment.shortname).Nodup := by
  rw [← h.catalog, Tables.catalog, List.map_map]
  exact h.managed.shortnames

/-- **Conditions are added to the last experiment**, with the numbers that the file counts. -/
theorem enter_conditions {e : ExperimentSpec} {id : Nat} {x : Experiment} (hid : x.id = ⟨id⟩)
    (hls : ∀ w ∈ ls, w.experiment.id ≠ x.id) {cs : List ConditionSpec}
    (hplain : ∀ c ∈ cs, ∀ line ∈ c.commands, IsPlain line) :
    ∀ {m : Manager} {zs built : List Condition} {seen : List String} {k : Nat},
      e.buildConditions id seen (k + 1) cs = .ok built → (∀ z ∈ zs, z.condset ∈ seen) →
      m.Serves ⟨ls ++ [⟨x, zs⟩], n, k⟩ →
      ∃ m', (ConditionSpec.enterAll x.id cs).runOn m = (.ok (), m') ∧
        m'.Serves ⟨ls ++ [⟨x, zs ++ built⟩], n, k + cs.length⟩ := by
  induction cs with
  | nil =>
    intro m zs built seen k hbuilt hseen h
    obtain rfl := Except.ok.inj hbuilt
    rw [List.append_nil]
    exact ⟨m, rfl, h⟩
  | cons c cs ih =>
    intro m zs built seen k hbuilt hseen h
    rw [ExperimentSpec.buildConditions] at hbuilt
    split at hbuilt
    · cases hbuilt
    next hnew =>
    split at hbuilt
    · cases hbuilt
    next rest hrest =>
    obtain rfl := Except.ok.inj hbuilt
    have hfree : ∀ z ∈ zs, z.condset ≠ c.input.condset := by
      intro z hz hsame
      have hcondset : z.condset = c.condset := hsame
      exact hnew (List.contains_iff_mem.mpr (hcondset ▸ hseen z hz))
    have hcondition := ConditionSpec.condition_input (hplain c List.mem_cons_self) x.id (k + 1)
    have hfollows := Action.follows_addCondition h.outages h.managed x.id c.input
    rw [h.catalog, Catalog.addCondition_last hls hfree, hcondition, hid] at hfollows
    obtain ⟨m₁, hrun, h₁⟩ := h.run_of_follows hfollows
    have hseen₁ : ∀ z ∈ zs ++ [c.toCondition ⟨id⟩ (k + 1)], z.condset ∈ c.condset :: seen := by
      intro z hz
      rcases List.mem_append.mp hz with hz | hz
      · exact List.mem_cons_of_mem _ (hseen z hz)
      · rw [List.mem_singleton.mp hz]
        exact List.mem_cons_self
    obtain ⟨m', hrun', h'⟩ :=
      ih (fun c' hc' => hplain c' (List.mem_cons_of_mem c hc')) hrest hseen₁ h₁
    refine ⟨m', ?_, ?_⟩
    · rw [ConditionSpec.enterAll, hid, Action.runOn_bind_of_ok hrun, ← hid, hrun']
    · rw [List.append_assoc, Nat.add_assoc, Nat.add_comm 1] at h'
      exact h'

/-- **An experiment of the file is entered as the file builds it.** -/
theorem enter_experiment {e : ExperimentSpec} {seen : List String} {entry : Entry}
    (hplain : e.IsPlain) (hbuild : e.build seen (n + 1) (k + 1) = .ok entry)
    (hids : ∀ w ∈ ls, w.experiment.id.value ≤ n)
    (hnames : ∀ w ∈ ls, w.experiment.shortname ∈ seen) (offset : Fin 100)
    (h : m.Serves ⟨ls, n, k⟩) :
    ∃ m', (e.enter offset).runOn m = (.ok (), m') ∧
      m'.Serves ⟨ls ++ [.ofEntry entry], n + 1, k + e.conditions.length⟩ := by
  obtain ⟨hname, hnew, hoffset, built, hbuilt, rfl⟩ := ExperimentSpec.build_eq_ok hbuild
  have hfresh : ∀ w ∈ ls, w.experiment.id ≠ ⟨(n + 1 : Nat)⟩ := by
    intro w hw hid
    have hle := hids w hw
    have hvalue : w.experiment.id.value = (n + 1 : Nat) := congrArg ExperimentId.value hid
    omega
  have hfree : ∀ w ∈ ls, w.experiment.shortname ≠ e.shortname := by
    intro w hw hsame
    exact hnew (hsame ▸ hnames w hw)
  -- the experiment is added
  have hfollows := Action.follows_addExperiment h.outages h.managed (e.name.getD e.shortname)
    e.shortname e.scope (Nat.le_of_lt_succ offset.isLt)
  rw [h.catalog, Catalog.addExperiment_of_free hname hfree] at hfollows
  obtain ⟨m₁, hrun₁, h₁⟩ := h.run_of_follows hfollows
  -- then its conditions
  obtain ⟨m₂, hrun₂, h₂⟩ := enter_conditions rfl hfresh hplain hbuilt (by rintro z ⟨⟩) h₁
  rw [List.nil_append] at h₂
  -- and then it is given its fields
  have hupdate := Action.follows_updateExperiment h₂.outages h₂.managed e.shortname e.update
  have hadmitted : 0 ≤ e.update.numericOffset ∧ e.update.numericOffset ≤ 99 := by
    have hgiven : e.update.numericOffset = (e.numericOffset : Int) := rfl
    omega
  rw [h₂.catalog, Catalog.updateExperiment_last (u := e.update) hfresh hfree rfl hname hadmitted]
    at hupdate
  obtain ⟨m₃, hrun₃, h₃⟩ := h₂.run_of_follows hupdate
  have hlast : Listing.ofEntry (.ofList (e.toExperiment (n + 1)) built) =
      ⟨e.toExperiment (n + 1), built⟩ := by
    have hcondsets := h₃.nodup_condsets (List.mem_append_right ls List.mem_cons_self)
    exact congrArg (Listing.mk _) (Keyed.items_ofList hcondsets)
  refine ⟨m₃, ?_, hlast ▸ h₃⟩
  rw [ExperimentSpec.enter, Action.runOn_bind_of_ok hrun₁, Action.runOn_bind_of_ok hrun₂, hrun₃]

/-- **A file is entered as it is built**, one experiment after another. -/
theorem enter_experiments {es : List ExperimentSpec} (hplain : ∀ e ∈ es, e.IsPlain) :
    ∀ {m : Manager} {ls : List Listing} {n k : Nat} {seen : List String} {entries : List Entry}
      (offsets : Nat → Fin 100),
      DatasetFile.buildEntries seen (n + 1) (k + 1) es = .ok entries →
      (∀ w ∈ ls, w.experiment.id.value ≤ n) → (∀ w ∈ ls, w.experiment.shortname ∈ seen) →
      m.Serves ⟨ls, n, k⟩ →
      ∃ m' c', (ExperimentSpec.enterAll offsets es).runOn m = (.ok (), m') ∧ m'.Serves c' ∧
        c'.listings = ls ++ entries.map Listing.ofEntry := by
  induction es with
  | nil =>
    intro m ls n k seen entries offsets hbuild hids hnames h
    obtain rfl := Except.ok.inj hbuild
    exact ⟨m, ⟨ls, n, k⟩, rfl, h, (List.append_nil ls).symm⟩
  | cons e es ih =>
    intro m ls n k seen entries offsets hbuild hids hnames h
    rw [DatasetFile.buildEntries] at hbuild
    split at hbuild
    · cases hbuild
    next entry hentry =>
    split at hbuild
    · cases hbuild
    next rest hrest =>
    obtain rfl := Except.ok.inj hbuild
    obtain ⟨m₁, hrun₁, h₁⟩ := h.enter_experiment (hplain e List.mem_cons_self) hentry hids hnames
      (offsets 0)
    obtain ⟨-, -, -, built, -, rfl⟩ := ExperimentSpec.build_eq_ok hentry
    have hids₁ : ∀ w ∈ ls ++ [.ofEntry (.ofList (e.toExperiment (n + 1)) built)],
        w.experiment.id.value ≤ ((n + 1 : Nat) : Int) := by
      intro w hw
      rcases List.mem_append.mp hw with hw | hw
      · have hle := hids w hw
        omega
      · rw [List.mem_singleton.mp hw]
        exact Int.le_refl _
    have hnames₁ : ∀ w ∈ ls ++ [.ofEntry (.ofList (e.toExperiment (n + 1)) built)],
        w.experiment.shortname ∈ e.shortname :: seen := by
      intro w hw
      rcases List.mem_append.mp hw with hw | hw
      · exact List.mem_cons_of_mem _ (hnames w hw)
      · rw [List.mem_singleton.mp hw]
        exact List.mem_cons_self
    rw [Nat.add_right_comm k] at hrest
    obtain ⟨m', c', hrun', h', hlistings⟩ :=
      ih (fun e' he' => hplain e' (List.mem_cons_of_mem e he')) (fun i => offsets (i + 1)) hrest
        hids₁ hnames₁ h₁
    refine ⟨m', c', ?_, h', ?_⟩
    · rw [ExperimentSpec.enterAll, Action.runOn_bind_of_ok hrun₁, hrun']
    · rw [hlistings, List.append_assoc]
      rfl

end Manager.Serves

/-- A dataset is known by its listings. -/
theorem Listing.ofDataset_injective {d d' : Dataset} (h : ofDataset d = ofDataset d') : d = d' := by
  have hentry : Function.Injective ofEntry := by
    intro e e' he
    obtain ⟨hexperiment, hitems⟩ := Listing.mk.inj he
    cases e with
    | mk experiment conditions =>
      obtain rfl := hexperiment
      exact congrArg _ (Keyed.ext hitems)
  exact Keyed.ext (List.map_injective_iff.mpr hentry h)

/-- **A file that is entered is the dataset that it is read as.**  If the file is a dataset
and its commands are plain, then entering it into a new store is refused at no step, and a
snapshot afterwards is that dataset, whatever offsets were drawn on the way. -/
theorem enter_agrees_with_file (lifetime : Option Nat) (sink : AuditSink) (overlap : Bool)
    (offsets : Nat → Fin 100) {f : DatasetFile} {d : Dataset} (hd : f.toDataset = .ok d)
    (hplain : ∀ e ∈ f.experiments, e.IsPlain) :
    ∃ m', (f.enter offsets).runOn (.fresh lifetime sink overlap) = (.ok (), m') ∧
      (Action.snapshot.runOn m').1 = .ok d := by
  rw [DatasetFile.toDataset] at hd
  split at hd
  · cases hd
  next entries hentries =>
  obtain rfl := Except.ok.inj hd
  have hempty : (Manager.fresh lifetime sink overlap).Serves ⟨[], 0, 0⟩ :=
    Manager.Serves.ofEmpty lifetime sink overlap
  obtain ⟨m', c', hrun, h', hlistings⟩ := Manager.Serves.enter_experiments hplain offsets hentries
    (by rintro w ⟨⟩) (by rintro w ⟨⟩) hempty
  obtain ⟨d, m'', hsnapshot, hd, -⟩ := h'.snapshot
  have hitems : (Keyed.ofList entries : Dataset).items = entries := by
    refine Keyed.items_ofList ?_
    have hnames := h'.nodup_shortnames
    rw [hlistings, List.nil_append, List.map_map] at hnames
    exact hnames
  have hsame : d = .ofList entries := by
    refine Listing.ofDataset_injective ?_
    rw [hd, hlistings, List.nil_append, Listing.ofDataset, hitems]
  refine ⟨m', hrun, ?_⟩
  rw [hsnapshot, hsame]

/-- A file of a site that tries out its theme and the place of its blocks. -/
def themeFile : DatasetFile where
  experiments :=
    [⟨none, "theme", .session, true, false, 7,
      [⟨"dark", 40, "", ["CFG,theme,dark", "error_log,dark"], .ofList [3, 1]⟩,
        ⟨"light", 60, "10.0.0.0/8", [], .empty⟩]⟩,
    ⟨some "Side blocks", "blocks", .device, false, true, 99,
      [⟨"dark", 50, "", ["forced_plugin_setting,blocks,side,left"], .empty⟩]⟩]

theorem enter_themeFile :
    (∀ e ∈ themeFile.experiments, e.IsPlain) ∧ ∃ d m', themeFile.toDataset = .ok d ∧
      (themeFile.enter fun _ => 0).runOn (.fresh none .log false) = (.ok (), m') ∧
      (Action.snapshot.runOn m').1 = .ok d := by
  have hplain : ∀ e ∈ themeFile.experiments, e.IsPlain := by
    show ∀ e ∈ themeFile.experiments, ∀ c ∈ e.conditions, ∀ line ∈ c.commands, IsPlain line
    decide +kernel
  obtain ⟨d, hd⟩ : ∃ d, themeFile.toDataset = .ok d := ⟨_, rfl⟩
  obtain ⟨m', hrun, hsnapshot⟩ := enter_agrees_with_file none .log false (fun _ => 0) hd hplain
  exact ⟨hplain, d, m', hd, hrun, hsnapshot⟩

end Store

end SplitTest

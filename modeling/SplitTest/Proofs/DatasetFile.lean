import SplitTest.DatasetFile
import SplitTest.Proofs.Store.Intact

/-!
# Files that are datasets

A dataset file is read in one pass, which stops at the first fault.  What it may stop at is
said here without a pass: every place of the file has its faults, which depend on what stands
before it (`DatasetFile.faults`), and reading a file refuses it for the first of them in the
order of the file, or builds its entries as if there were no checks (`toDataset_eq`).

So the files that are accepted are the well-formed ones, and since a well-formed file repeats
no name, keeping entries and conditions by their names loses nothing (`file_law`).
-/

namespace SplitTest

open SplitTest.Store

/-- The elements of a list, each with those before it. -/
def withEarlier {α : Type} (before : List α) : List α → List (List α × α)
  | [] => []
  | x :: l => (before, x) :: withEarlier (before ++ [x]) l

/-- Accept a value, or refuse it for the first of its faults. -/
def refuseFirst {α : Type} : List DatasetFault → α → Except DatasetFault α
  | [], a => .ok a
  | fault :: _, _ => .error fault

instance (s : String) : Decidable (IsName s) :=
  decidable_of_iff (isShortname s = true) isShortname_iff

/-! ## Faults -/

/-- What is wrong with a condition that follows others of its experiment. -/
def ConditionSpec.faults (e : ExperimentSpec) (earlier : List ConditionSpec) (c : ConditionSpec) :
    List DatasetFault :=
  if c.condset ∈ earlier.map condset then [.duplicateCondset e.shortname c.condset] else []

namespace ExperimentSpec

/-- What is wrong with the conditions of an experiment. -/
def conditionFaults (e : ExperimentSpec) : List DatasetFault :=
  (withEarlier [] e.conditions).flatMap fun p => p.2.faults e p.1

/-- What is wrong with an experiment that follows others: its shortname, a repetition of it, its
offset, its conditions. -/
def faults (earlier : List ExperimentSpec) (e : ExperimentSpec) : List DatasetFault :=
  (if IsName e.shortname then [] else [.shortname e.shortname]) ++
    ((if e.shortname ∈ earlier.map shortname then [.duplicateShortname e.shortname] else []) ++
      ((if e.numericOffset ≤ 99 then [] else [.offset e.shortname e.numericOffset]) ++
        e.conditionFaults))

/-- The entry of a specification with a number, its conditions numbered from `next` on,
whatever is wrong with it. -/
def entry (e : ExperimentSpec) (id next : Nat) : Entry :=
  .ofList (e.toExperiment id) ((e.conditions.zipIdx next).map fun p => p.1.toCondition ⟨id⟩ p.2)

/-- The entries of specifications, numbered from `id` on and their conditions from `next` on,
whatever is wrong with them. -/
def entries (id next : Nat) : List ExperimentSpec → List Entry
  | [] => []
  | e :: es => e.entry id next :: entries (id + 1) (next + e.conditions.length) es

end ExperimentSpec

namespace DatasetFile

/-- What is wrong with a file, in its order. -/
def faults (f : DatasetFile) : List DatasetFault :=
  (withEarlier [] f.experiments).flatMap fun p => p.2.faults p.1

/-- A file of which every name can be kept apart. -/
structure WellFormed (f : DatasetFile) : Prop where
  named : ∀ e ∈ f.experiments, IsName e.shortname
  shortnames : (f.experiments.map ExperimentSpec.shortname).Nodup
  offsets : ∀ e ∈ f.experiments, e.numericOffset ≤ 99
  condsets : ∀ e ∈ f.experiments, (e.conditions.map ConditionSpec.condset).Nodup

end DatasetFile

/-! ## The pass over a file -/

section
variable {α : Type}

/-- The names that were seen are those of what stands before. -/
theorem mem_seen_iff {key : α → String} {seen : List String} {before : List α}
    (hseen : ∀ s, s ∈ seen ↔ s ∈ before.map key) (x : α) (s : String) :
    s ∈ key x :: seen ↔ s ∈ (before ++ [x]).map key := by
  rw [List.map_append, List.mem_append, List.mem_cons, hseen, or_comm, List.map_singleton,
    List.mem_singleton]

theorem refuseFirst_eq_ok_iff {faults : List DatasetFault} {a b : α} :
    refuseFirst faults a = .ok b ↔ faults = [] ∧ a = b := by
  cases faults <;> simp [refuseFirst]

theorem refuseFirst_eq_error_iff {faults : List DatasetFault} {a : α} {fault : DatasetFault} :
    refuseFirst faults a = .error fault ↔ faults.head? = some fault := by
  cases faults <;> simp [refuseFirst]

end

namespace ExperimentSpec

theorem buildConditions_eq (e : ExperimentSpec) (id : Nat) (cs : List ConditionSpec) :
    ∀ (seen : List String) (before : List ConditionSpec) (next : Nat),
      (∀ s, s ∈ seen ↔ s ∈ before.map ConditionSpec.condset) →
      e.buildConditions id seen next cs =
        refuseFirst ((withEarlier before cs).flatMap fun p => p.2.faults e p.1)
          ((cs.zipIdx next).map fun p => p.1.toCondition ⟨id⟩ p.2) := by
  induction cs with
  | nil => intro seen before next _; rfl
  | cons c cs ih =>
    intro seen before next hseen
    rw [buildConditions, ih _ _ (next + 1) (mem_seen_iff hseen c), withEarlier,
      List.flatMap_cons, ConditionSpec.faults, List.zipIdx_cons, List.map_cons]
    simp only [List.contains_iff_mem, hseen]
    generalize (withEarlier (before ++ [c]) cs).flatMap _ = rest
    -- a repeated condset comes before the faults of the rest
    split
    · rfl
    · cases rest <;> rfl

theorem build_eq (e : ExperimentSpec) {seen : List String} {before : List ExperimentSpec}
    (id next : Nat) (hseen : ∀ s, s ∈ seen ↔ s ∈ before.map shortname) :
    e.build seen id next = refuseFirst (e.faults before) (e.entry id next) := by
  have hname : (!isShortname e.shortname) = true ↔ ¬IsName e.shortname := by
    rw [Bool.not_eq_true', ← Bool.not_eq_true, isShortname_iff]
  have hconditions := buildConditions_eq e id e.conditions [] [] next fun s => Iff.rfl
  rw [build, hconditions, faults, conditionFaults]
  simp only [hname, List.contains_iff_mem, hseen, ← Nat.not_le]
  generalize (withEarlier [] e.conditions).flatMap _ = rest
  -- one check after another
  split
  · rfl
  next hnamed =>
  rw [if_pos (not_not.mp hnamed), List.nil_append]
  split
  · rfl
  rw [List.nil_append]
  split
  · rfl
  next hoffset =>
  rw [if_pos (not_not.mp hoffset), List.nil_append]
  cases rest <;> rfl

end ExperimentSpec

namespace DatasetFile

theorem buildEntries_eq (es : List ExperimentSpec) :
    ∀ (seen : List String) (before : List ExperimentSpec) (id next : Nat),
      (∀ s, s ∈ seen ↔ s ∈ before.map ExperimentSpec.shortname) →
      buildEntries seen id next es =
        refuseFirst ((withEarlier before es).flatMap fun p => p.2.faults p.1)
          (ExperimentSpec.entries id next es) := by
  induction es with
  | nil => intro seen before id next _; rfl
  | cons e es ih =>
    intro seen before id next hseen
    rw [buildEntries, e.build_eq id next hseen, ih _ _ _ _ (mem_seen_iff hseen e), withEarlier,
      List.flatMap_cons, ExperimentSpec.entries]
    generalize (withEarlier (before ++ [e]) es).flatMap _ = rest
    cases e.faults before with
    | cons fault faults => rfl
    | nil => cases rest <;> rfl

/-- **A file is refused for its first fault, or built as if nothing was checked.** -/
theorem toDataset_eq (f : DatasetFile) :
    f.toDataset = refuseFirst f.faults (.ofList (ExperimentSpec.entries 1 1 f.experiments)) := by
  have hentries := buildEntries_eq f.experiments [] [] 1 1 fun s => Iff.rfl
  rw [toDataset, hentries, faults]
  generalize (withEarlier [] f.experiments).flatMap _ = rest
  cases rest <;> rfl

end DatasetFile

/-! ## Files without faults -/

section
variable {α κ : Type} {l : List α}

theorem forall_withEarlier_iff (P : α → Prop) : ∀ before : List α,
    (∀ p ∈ withEarlier before l, P p.2) ↔ ∀ x ∈ l, P x := by
  induction l with
  | nil => simp [withEarlier]
  | cons x l ih =>
    intro before
    rw [withEarlier, List.forall_mem_cons, List.forall_mem_cons, ih]

/-- **No key is met again exactly if the keys are distinct.** -/
theorem forall_withEarlier_not_mem_iff (key : α → κ) : ∀ before : List α,
    (before.map key).Nodup →
    ((∀ p ∈ withEarlier before l, key p.2 ∉ p.1.map key) ↔ ((before ++ l).map key).Nodup) := by
  induction l with
  | nil => simp [withEarlier]
  | cons x l ih =>
    intro before hbefore
    have hsplit : before ++ x :: l = (before ++ [x]) ++ l := by simp
    rw [withEarlier, List.forall_mem_cons, hsplit]
    by_cases hx : key x ∈ before.map key
    · refine iff_of_false (fun h => h.1 hx) fun h => ?_
      rw [List.map_append, List.map_append, List.nodup_append', List.nodup_append'] at h
      exact h.1.2.2 hx (by simp)
    · have hbefore' : ((before ++ [x]).map key).Nodup :=
        nodup_map_concat hbefore fun a ha hkey => hx (hkey ▸ List.mem_map_of_mem ha)
      rw [ih _ hbefore']
      exact and_iff_right hx

end

theorem ExperimentSpec.conditionFaults_eq_nil_iff {e : ExperimentSpec} :
    e.conditionFaults = [] ↔ (e.conditions.map ConditionSpec.condset).Nodup := by
  have hnil : ∀ p ∈ withEarlier [] e.conditions,
      p.2.faults e p.1 = [] ↔ p.2.condset ∉ p.1.map ConditionSpec.condset := fun p _ => by
    rw [ConditionSpec.faults]
    split <;> simp_all
  rw [conditionFaults, List.flatMap_eq_nil_iff, forall₂_congr hnil,
    forall_withEarlier_not_mem_iff ConditionSpec.condset [] List.nodup_nil, List.nil_append]

theorem ExperimentSpec.faults_eq_nil_iff {earlier : List ExperimentSpec} {e : ExperimentSpec} :
    e.faults earlier = [] ↔
      IsName e.shortname ∧ e.shortname ∉ earlier.map shortname ∧ e.numericOffset ≤ 99 ∧
        (e.conditions.map ConditionSpec.condset).Nodup := by
  rw [faults, List.append_eq_nil_iff, List.append_eq_nil_iff, List.append_eq_nil_iff,
    conditionFaults_eq_nil_iff]
  simp

/-- **A file without faults is well-formed.** -/
theorem DatasetFile.faults_eq_nil_iff {f : DatasetFile} : f.faults = [] ↔ f.WellFormed := by
  have hshortnames := forall_withEarlier_not_mem_iff (l := f.experiments) ExperimentSpec.shortname
    [] List.nodup_nil
  rw [faults, List.flatMap_eq_nil_iff]
  simp only [ExperimentSpec.faults_eq_nil_iff, forall_and]
  rw [forall_withEarlier_iff (fun e : ExperimentSpec => IsName e.shortname), hshortnames,
    forall_withEarlier_iff (fun e : ExperimentSpec => e.numericOffset ≤ 99),
    forall_withEarlier_iff
      (fun e : ExperimentSpec => (e.conditions.map ConditionSpec.condset).Nodup)]
  exact ⟨fun ⟨h₁, h₂, h₃, h₄⟩ => ⟨h₁, h₂, h₃, h₄⟩, fun h => ⟨h.1, h.2, h.3, h.4⟩⟩

/-! ## What is built -/

/-- A condition of a file, with every field that it has there. -/
structure ConditionSpec.Becomes (s : ConditionSpec) (c : Condition) : Prop where
  condset : c.condset = s.condset
  weight : c.weight = s.weight
  /-- The allow-list is read, and its text is kept. -/
  allowList : c.allowList = .parse s.allowList ∧ c.allowList.source = s.allowList
  commands : c.commands.lines = s.commands
  users : c.users = s.users

/-- An experiment of a file, with every field that it has there and its conditions in order. -/
structure ExperimentSpec.Becomes (s : ExperimentSpec) (e : Entry) : Prop where
  /-- One without a name is known to people by its shortname. -/
  name : e.experiment.name = s.name.getD s.shortname
  shortname : e.experiment.shortname = s.shortname
  scope : e.experiment.scope = s.scope
  enabled : e.experiment.enabled = s.enabled
  adminEnabled : e.experiment.adminEnabled = s.adminEnabled
  numericOffset : e.experiment.numericOffset = s.numericOffset
  conditions : List.Forall₂ ConditionSpec.Becomes s.conditions e.conditions.items
  owned : ∀ c ∈ e.conditions.items, c.experimentId = e.experiment.id

/-- A dataset is that of a file: its entries are those of the file, in order, and they are
numbered from one on, as are the conditions of all of them together. -/
structure DatasetFile.BuiltAs (f : DatasetFile) (d : Dataset) : Prop where
  entries : List.Forall₂ ExperimentSpec.Becomes f.experiments d.items
  experimentIds : d.items.map (fun e => e.experiment.id) =
    (List.range' 1 f.experiments.length).map fun k => ⟨k⟩
  conditionIds : (d.items.flatMap fun e => e.conditions.items).map Condition.id =
    (List.range' 1 (f.experiments.flatMap ExperimentSpec.conditions).length).map fun k => ⟨k⟩

theorem ConditionSpec.becomes_toCondition (s : ConditionSpec) (owner : ExperimentId) (id : Nat) :
    s.Becomes (s.toCondition owner id) :=
  ⟨rfl, rfl, ⟨rfl, rfl⟩, rfl, rfl⟩

theorem forall₂_zipIdx {α β : Type} {R : α → β → Prop} {f : α → Nat → β} (h : ∀ a n, R a (f a n))
    (l : List α) : ∀ n, List.Forall₂ R l ((l.zipIdx n).map fun p => f p.1 p.2) := by
  induction l with
  | nil => exact fun _ => .nil
  | cons a l ih => exact fun n => .cons (h a n) (ih (n + 1))

namespace ExperimentSpec

theorem items_entry {e : ExperimentSpec} (h : (e.conditions.map ConditionSpec.condset).Nodup)
    (id next : Nat) : (e.entry id next).conditions.items =
      (e.conditions.zipIdx next).map fun p => p.1.toCondition ⟨id⟩ p.2 := by
  refine Keyed.items_ofList ?_
  have hcondsets : ((e.conditions.zipIdx next).map fun p => p.1.toCondition ⟨id⟩ p.2).map
      Condition.condset = e.conditions.map ConditionSpec.condset := by
    conv_rhs => rw [← List.zipIdx_map_fst next e.conditions]
    rw [List.map_map, List.map_map]
    rfl
  rw [hcondsets]
  exact h

theorem becomes_entry {e : ExperimentSpec}
    (h : (e.conditions.map ConditionSpec.condset).Nodup) (id next : Nat) :
    e.Becomes (e.entry id next) where
  name := rfl
  shortname := rfl
  scope := rfl
  enabled := rfl
  adminEnabled := rfl
  numericOffset := rfl
  conditions := by
    rw [items_entry h]
    exact forall₂_zipIdx (fun c n => c.becomes_toCondition ⟨id⟩ n) e.conditions next
  owned := by
    rw [items_entry h]
    intro c hc
    obtain ⟨p, -, rfl⟩ := List.mem_map.mp hc
    rfl

theorem ids_entry {e : ExperimentSpec} (h : (e.conditions.map ConditionSpec.condset).Nodup)
    (id next : Nat) : (e.entry id next).conditions.items.map Condition.id =
      (List.range' next e.conditions.length).map fun k => ⟨k⟩ := by
  rw [items_entry h, ← List.zipIdx_map_snd next e.conditions, List.map_map, List.map_map]
  rfl

theorem forall₂_entries {es : List ExperimentSpec}
    (h : ∀ e ∈ es, (e.conditions.map ConditionSpec.condset).Nodup) :
    ∀ id next, List.Forall₂ Becomes es (entries id next es) := by
  induction es with
  | nil => exact fun _ _ => .nil
  | cons e es ih =>
    obtain ⟨he, hes⟩ := List.forall_mem_cons.mp h
    exact fun id next => .cons (becomes_entry he id next) (ih hes _ _)

theorem experimentIds_entries (es : List ExperimentSpec) : ∀ id next,
    (entries id next es).map (fun e => e.experiment.id) =
      (List.range' id es.length).map fun k => ⟨k⟩ := by
  induction es with
  | nil => exact fun _ _ => rfl
  | cons e es ih =>
    intro id next
    rw [entries, List.map_cons, ih, List.length_cons, List.range'_succ, List.map_cons]
    rfl

/-- The numbers of conditions run on from one experiment to the next. -/
theorem conditionIds_entries {es : List ExperimentSpec}
    (h : ∀ e ∈ es, (e.conditions.map ConditionSpec.condset).Nodup) : ∀ id next,
    ((entries id next es).flatMap fun e => e.conditions.items).map Condition.id =
      (List.range' next (es.flatMap conditions).length).map fun k => ⟨k⟩ := by
  induction es with
  | nil => exact fun _ _ => rfl
  | cons e es ih =>
    intro id next
    obtain ⟨he, hes⟩ := List.forall_mem_cons.mp h
    rw [entries, List.flatMap_cons, List.map_append, ids_entry he, ih hes, List.flatMap_cons,
      List.length_append, ← List.map_append, List.range'_append_1]

theorem shortnames_entries (es : List ExperimentSpec) : ∀ id next,
    (entries id next es).map Entry.shortname = es.map shortname := by
  induction es with
  | nil => exact fun _ _ => rfl
  | cons e es ih =>
    intro id next
    rw [entries, List.map_cons, ih, List.map_cons]
    rfl

end ExperimentSpec

/-- **A well-formed file loses nothing** when its entries are kept by their names. -/
theorem DatasetFile.WellFormed.builtAs {f : DatasetFile} (h : f.WellFormed) :
    f.BuiltAs (.ofList (ExperimentSpec.entries 1 1 f.experiments)) := by
  have hitems : (Keyed.ofList (ExperimentSpec.entries 1 1 f.experiments) : Dataset).items =
      ExperimentSpec.entries 1 1 f.experiments :=
    Keyed.items_ofList (by rw [ExperimentSpec.shortnames_entries]; exact h.shortnames)
  constructor
  · rw [hitems]
    exact ExperimentSpec.forall₂_entries h.condsets 1 1
  · rw [hitems]
    exact ExperimentSpec.experimentIds_entries f.experiments 1 1
  · rw [hitems]
    exact ExperimentSpec.conditionIds_entries h.condsets 1 1

/-- What is accepted is well-formed, and nothing of it is lost. -/
theorem DatasetFile.toDataset_eq_ok {f : DatasetFile} {d : Dataset} (h : f.toDataset = .ok d) :
    f.WellFormed ∧ f.BuiltAs d := by
  rw [f.toDataset_eq] at h
  obtain ⟨hnone, rfl⟩ := refuseFirst_eq_ok_iff.mp h
  have hwell := f.faults_eq_nil_iff.mp hnone
  exact ⟨hwell, hwell.builtAs⟩

/-- **A file is accepted exactly if it is well-formed**, it is refused for the first of its faults
in the order of the file, and the dataset of a file that is accepted has everything that stands
in the file. -/
theorem file_law (f : DatasetFile) :
    ((∃ d, f.toDataset = .ok d) ↔ f.WellFormed) ∧
      (∀ fault, f.toDataset = .error fault ↔ f.faults.head? = some fault) ∧
      ∀ d, f.toDataset = .ok d → f.BuiltAs d := by
  refine ⟨?_, fun fault => ?_, fun d hd => (DatasetFile.toDataset_eq_ok hd).2⟩
  · rw [f.toDataset_eq]
    simp only [refuseFirst_eq_ok_iff, exists_and_left, exists_eq', and_true]
    exact f.faults_eq_nil_iff
  · rw [f.toDataset_eq]
    exact refuseFirst_eq_error_iff

/-- A file of two experiments with three conditions. -/
def DatasetFile.themes : DatasetFile where
  experiments :=
    [⟨none, "theme", .request, true, false, 0,
        [⟨"classic", 50, "", ["CFG,theme,classic"], ∅⟩, ⟨"boost", 50, "192.0.2.1", [], ∅⟩]⟩,
      ⟨some "Early", "early", .afterConfig, false, true, 99, [⟨"classic", 0, "", [], .ofList [7]⟩]⟩]

theorem themes_built :
    ∃ d, DatasetFile.themes.toDataset = .ok d ∧ DatasetFile.themes.WellFormed ∧
      DatasetFile.themes.BuiltAs d := by
  have hd : DatasetFile.themes.toDataset =
      .ok (.ofList (ExperimentSpec.entries 1 1 DatasetFile.themes.experiments)) := by
    decide +kernel
  obtain ⟨hwell, -, hbuilt⟩ := file_law .themes
  exact ⟨_, hd, hwell.mp ⟨_, hd⟩, hbuilt _ hd⟩

-- a shortname is found at fault before it is found repeated, and an offset before the condsets
example :
    let c : ConditionSpec := ⟨"x", 1, "", [], ∅⟩
    let f : DatasetFile := ⟨[⟨none, "a", .request, true, false, 100, [c, c]⟩,
      ⟨none, "", .request, true, false, 0, [c]⟩, ⟨none, "", .request, true, false, 0, []⟩]⟩
    f.faults = [.offset "a" 100, .duplicateCondset "a" "x", .shortname "", .shortname "",
      .duplicateShortname ""] := by
  decide

end SplitTest

import SplitTest.Proofs.Store.History

/-!
# Tables stay intact

Whatever happens to the manager of a new store, its tables stay intact: names are distinct
and admitted, no condition outlives its experiment, every row is filed under its own number,
and everything stored can be read (`Tables.Intact`, `tables_intact_law`).

Two parties keep it so.  The store by itself files each row under the number that it gives out
for it (`SortedMap.Filed`); the manager, which asks before it writes, keeps the rest
(`Tables.Managed`).  The number that a call answers is the one under which its row was filed
(`Manager.Serves.filesIssued`), and each is given out once.
-/

namespace SplitTest.Store

/-! ## Names -/

/-- A text is an admitted shortname. -/
def IsName (s : String) : Prop := s ≠ "" ∧ ∀ c ∈ s.toList, c.isAlphanum = true

theorem isAlphanumeric_eq (c : Char) : Text.isAlphanumeric c = c.isAlphanum := by
  have hupper : c.isUpper = ('A' ≤ c && c ≤ 'Z' : Bool) := Bool.decide_and _ _
  have hranges : c.isAlphanum =
      ((c.isUpper || ('a' ≤ c && c ≤ 'z')) || ('0' ≤ c && c ≤ '9') : Bool) := rfl
  rw [hranges, hupper, Text.isAlphanumeric]
  ac_rfl

theorem isShortname_iff {s : String} : isShortname s = true ↔ IsName s := by
  have hempty : s.toList.isEmpty = false ↔ s ≠ "" := by
    rw [List.isEmpty_eq_false_iff, ne_eq, String.toList_eq_nil_iff]
  simp only [isShortname, IsName, Bool.and_eq_true, Bool.not_eq_true', hempty, List.all_eq_true,
    isAlphanumeric_eq]

/-! ## Numbers that were given out -/

/-- The numbers given out when the last one is `n`. -/
def firstNumbers (n : Nat) : List Int := (List.range n).map fun k => ((k + 1 : Nat) : Int)

theorem firstNumbers_succ (n : Nat) :
    firstNumbers (n + 1) = firstNumbers n ++ [((n + 1 : Nat) : Int)] := by
  rw [firstNumbers, List.range_succ, List.map_append]
  rfl

theorem mem_firstNumbers {n : Nat} {k : Int} : k ∈ firstNumbers n ↔ 0 < k ∧ k ≤ n := by
  rw [firstNumbers, List.mem_map]
  constructor
  · rintro ⟨i, hi, rfl⟩
    have hlt := List.mem_range.mp hi
    omega
  · rintro ⟨hpos, hle⟩
    exact ⟨(k - 1).toNat, List.mem_range.mpr (by omega), by omega⟩

theorem nodup_firstNumbers (n : Nat) : (firstNumbers n).Nodup := by
  refine List.nodup_range.map fun i j hij => ?_
  have hij' : ((i + 1 : Nat) : Int) = (j + 1 : Nat) := hij
  omega

namespace ManagerAnswer

/-- The number of a new experiment. -/
def experiment? : ManagerAnswer → Option ExperimentId
  | experiment id => some id
  | _ => none

/-- The number of a new condition. -/
def condition? : ManagerAnswer → Option ConditionId
  | condition id => some id
  | _ => none

end ManagerAnswer

namespace Manager

/-- The number that a step gives to a new experiment. -/
def issuedExperiment? (m : Manager) : ManagerStep → Option ExperimentId
  | .call call => (call.action.runOn m).1.toOption.bind ManagerAnswer.experiment?
  | _ => none

/-- The number that a step gives to a new condition. -/
def issuedCondition? (m : Manager) : ManagerStep → Option ConditionId
  | .call call => (call.action.runOn m).1.toOption.bind ManagerAnswer.condition?
  | _ => none

end Manager

/-- A call that answers with a number answers with the next one. -/
theorem Catalog.Does.numbers {c c' : Catalog} {call : ManagerCall} {answer : ManagerAnswer}
    (h : c.Does call answer c') :
    firstNumbers c'.lastExperiment = firstNumbers c.lastExperiment ++
        (answer.experiment?.map ExperimentId.value).toList ∧
      firstNumbers c'.lastCondition = firstNumbers c.lastCondition ++
        (answer.condition?.map ConditionId.value).toList := by
  cases h with
  | addExperiment => exact ⟨firstNumbers_succ _, (List.append_nil _).symm⟩
  | addCondition => exact ⟨(List.append_nil _).symm, firstNumbers_succ _⟩
  | _ => exact ⟨(List.append_nil _).symm, (List.append_nil _).symm⟩

/-- So does a step of a history, and one that gives no number leaves the last ones. -/
theorem Manager.Serves.numbers {m : Manager} {c : Catalog} (h : m.Serves c) (s : ManagerStep) :
    firstNumbers (m.step s).tables.lastExperiment = firstNumbers m.tables.lastExperiment ++
        ((m.issuedExperiment? s).map ExperimentId.value).toList ∧
      firstNumbers (m.step s).tables.lastCondition = firstNumbers m.tables.lastCondition ++
        ((m.issuedCondition? s).map ConditionId.value).toList := by
  have hc : m.tables.catalog = c := h.catalog
  have hc' : (m.step s).tables.catalog = c.follow s := (h.follow s).catalog
  have hlast : (m.step s).tables.lastExperiment = (c.follow s).lastExperiment ∧
      (m.step s).tables.lastCondition = (c.follow s).lastCondition := by
    rw [← hc']
    exact ⟨rfl, rfl⟩
  have hlast₀ : m.tables.lastExperiment = c.lastExperiment ∧
      m.tables.lastCondition = c.lastCondition := by
    rw [← hc]
    exact ⟨rfl, rfl⟩
  rw [hlast.1, hlast.2, hlast₀.1, hlast₀.2]
  cases s with
  | call call =>
    have hanswer := (h.step call).1
    show firstNumbers (c.next call).lastExperiment = _ ∧
      firstNumbers (c.next call).lastCondition = _
    rw [Manager.issuedExperiment?, Manager.issuedCondition?, hanswer, Catalog.next]
    cases hstep : c.step call with
    | error e => exact ⟨(List.append_nil _).symm, (List.append_nil _).symm⟩
    | ok r => exact (Catalog.does_of_step hstep).numbers
  | query q => exact ⟨(List.append_nil _).symm, (List.append_nil _).symm⟩
  | hook o hook => exact ⟨(List.append_nil _).symm, (List.append_nil _).symm⟩

/-- **Numbers are given out in order, one, two, three and so on**, to experiments and to
conditions each. -/
theorem Manager.issued_through (lifetime : Option Nat) (sink : AuditSink) (overlap : Bool)
    (steps : List ManagerStep) :
    let m := Manager.fresh lifetime sink overlap
    (m.collect issuedExperiment? steps).map ExperimentId.value =
        firstNumbers (m.through steps).tables.lastExperiment ∧
      (m.collect issuedCondition? steps).map ConditionId.value =
        firstNumbers (m.through steps).tables.lastCondition := by
  intro m
  induction steps using List.reverseRecOn with
  | nil => exact ⟨rfl, rfl⟩
  | append_singleton steps s ih =>
    obtain ⟨hexperiments, hconditions⟩ :=
      (Manager.serves_through lifetime sink overlap steps).numbers s
    rw [Manager.through_concat, hexperiments, hconditions, Manager.collect_concat,
      Manager.collect_concat, List.map_append, List.map_append, ih.1, ih.2]
    constructor
    · cases (m.through steps).issuedExperiment? s <;> rfl
    · cases (m.through steps).issuedCondition? s <;> rfl

/-! ## Rows of numbers that were given out -/

/-- **The number that a step gives out is that of its row**, which is filed under it, behind all
the others. -/
structure Manager.FilesIssued (m : Manager) (s : ManagerStep) : Prop where
  experiment : ∀ id, m.issuedExperiment? s = some id → ∃ x, x.id = id ∧
    (m.step s).tables.experimentTable.rows = m.tables.experimentTable.rows ++ [(id.value, x)]
  condition : ∀ id, m.issuedCondition? s = some id → ∃ r, r.id = id ∧
    (m.step s).tables.conditionTable.rows = m.tables.conditionTable.rows ++ [(id.value, r)]

/-- What is answered to a call is what the catalog does. -/
theorem Manager.Serves.does_of_answer {m : Manager} {c : Catalog} (h : m.Serves c)
    {call : ManagerCall} {α : Type} {f : ManagerAnswer → Option α} {a : α}
    (ha : (call.action.runOn m).1.toOption.bind f = some a) :
    ∃ answer c', c.Does call answer c' ∧ f answer = some a := by
  rw [(h.step call).1] at ha
  cases hstep : c.step call with
  | error e =>
    rw [hstep] at ha
    cases ha
  | ok r =>
    rw [hstep] at ha
    exact ⟨r.1, r.2, Catalog.does_of_step hstep, ha⟩

/-- The row of a new experiment comes last, under its number. -/
theorem Manager.Serves.rows_addExperiment {m : Manager} {c : Catalog} (h : m.Serves c)
    {name shortname : String} {scope : Scope} {offset : Fin 100}
    (hname : isShortname shortname = true) (hfree : c.named? shortname = none) :
    let id : ExperimentId := ⟨(c.lastExperiment + 1 : Nat)⟩
    let m' := ((ManagerCall.addExperiment name shortname scope offset).action.runOn m).2
    m'.tables.experimentTable.rows = m.tables.experimentTable.rows ++
      [(id.value, ⟨id, name, shortname, scope, false, false, offset⟩)] := by
  intro id m'
  obtain rfl := h.catalog
  rw [Tables.catalog_named?, Option.map_eq_none_iff] at hfree
  have hrun := Action.runOn_bind_of_ok (f := fun id => pure (ManagerAnswer.experiment id))
    (Action.runOn_addExperiment h.outages name scope offset hname hfree)
  show ((_ >>= _ : Action ManagerAnswer).runOn m).2.tables.experimentTable.rows = _
  rw [hrun]
  exact h.managed.experimentsFiled.rows_insert_next _

/-- So does the row of a new condition: what it records in the audit is no matter. -/
theorem Manager.Serves.rows_addCondition {m : Manager} {c : Catalog} (h : m.Serves c)
    {owner : ExperimentId} {input : ConditionInput} {y : Listing}
    (hy : c.numbered? owner = some y) (hfree : y.condition? input.condset = none) :
    let id : ConditionId := ⟨(c.lastCondition + 1 : Nat)⟩
    let m' := ((ManagerCall.addCondition owner input).action.runOn m).2
    m'.tables.conditionTable.rows =
      m.tables.conditionTable.rows ++ [(id.value, ⟨id, owner, input.fields⟩)] := by
  intro id m'
  obtain rfl := h.catalog
  rw [h.managed.catalog_numbered?, Option.map_eq_some_iff] at hy
  obtain ⟨x, hx, rfl⟩ := hy
  obtain ⟨-, rfl⟩ := h.managed.experiment?_eq_some_iff.mp hx
  rw [Tables.listing_condition?, Option.map_eq_none_iff] at hfree
  have hrun := Action.runOn_bind_of_ok (f := fun new => pure (ManagerAnswer.condition new))
    (Action.runOn_addCondition h.outages hx hfree)
  obtain ⟨audit, events, hrecord⟩ := Action.foldl_record
    (AuditEntry.ofCommands x.shortname input.weight input.commandList)
    { m with tables := m.tables.withCondition x.id input.fields }
  show ((_ >>= _ : Action ManagerAnswer).runOn m).2.tables.conditionTable.rows = _
  rw [hrun, hrecord]
  exact h.managed.conditionsFiled.rows_insert_next _

theorem Manager.Serves.filesIssued {m : Manager} {c : Catalog} (h : m.Serves c)
    (s : ManagerStep) : m.FilesIssued s := by
  cases s with
  | call call =>
    constructor
    · intro id hid
      obtain ⟨answer, c', hdoes, hanswer⟩ := h.does_of_answer hid
      cases hdoes with
      | addExperiment hname hfree =>
        cases hanswer
        exact ⟨_, rfl, h.rows_addExperiment hname hfree⟩
      | _ => cases hanswer
    · intro id hid
      obtain ⟨answer, c', hdoes, hanswer⟩ := h.does_of_answer hid
      cases hdoes with
      | addCondition hy hfree =>
        cases hanswer
        exact ⟨_, rfl, h.rows_addCondition hy hfree⟩
      | _ => cases hanswer
  | query q => exact ⟨by rintro id ⟨⟩, by rintro id ⟨⟩⟩
  | hook o c => exact ⟨by rintro id ⟨⟩, by rintro id ⟨⟩⟩

/-! ## The invariant -/

/-- What the tables of a manager keep, whatever happens to it. -/
structure Tables.Intact (t : Tables) : Prop where
  shortnames : (t.experiments.map Experiment.shortname).Nodup
  named : ∀ x ∈ t.experiments, IsName x.shortname
  offsets : ∀ x ∈ t.experiments, x.numericOffset ≤ 99
  condsets : (t.conditions.map fun r => (r.experimentId, r.fields.condset)).Nodup
  /-- No condition is left without its experiment. -/
  owned : ∀ r ∈ t.conditions, ∃ x ∈ t.experiments, x.id = r.experimentId
  /-- Every row stands under its own number. -/
  filed : (∀ row ∈ t.experimentTable.rows, row.1 = row.2.id.value) ∧
    ∀ row ∈ t.conditionTable.rows, row.1 = row.2.id.value
  /-- The numbers of the rows increase. -/
  ordered : (t.experiments.map fun x => x.id.value).Pairwise (· < ·) ∧
    (t.conditions.map fun r => r.id.value).Pairwise (· < ·)
  /-- What is found under a number is the row that has it. -/
  found : (∀ id x, t.experiment? id = some x ↔ x ∈ t.experiments ∧ x.id = id) ∧
    ∀ k r, t.conditionTable.get? k = some r ↔ r ∈ t.conditions ∧ r.id.value = k
  /-- Every stored command list can be read. -/
  decodes : ∀ r ∈ t.conditions, ∃ c, r.decode = .ok c

theorem Tables.Managed.intact {t : Tables} (h : t.Managed) : t.Intact where
  shortnames := h.shortnames
  named := fun x hx => isShortname_iff.mp (h.admitted x hx).1
  offsets := fun x hx => (h.admitted x hx).2
  condsets := h.condsets
  owned := h.owned
  filed := ⟨h.experimentsFiled.own, h.conditionsFiled.own⟩
  ordered := ⟨h.experimentsFiled.increasing, h.conditionsFiled.increasing⟩
  found := ⟨fun _ _ => h.experiment?_eq_some_iff, fun _ _ => h.conditionsFiled.get?_eq_some_iff⟩
  decodes := fun r hr => ⟨r.content, (h.readable r hr).decode⟩

/-- **Through any history the tables of a manager stay intact, and its dataset can be
read.**  Each number is given out once, whatever was deleted in between, none is above the last
one that the tables remember, and the next row that is added is filed under the number that is
answered for it. -/
theorem tables_intact_law (lifetime : Option Nat) (sink : AuditSink) (overlap : Bool)
    (steps : List ManagerStep) :
    let m₀ := Manager.fresh lifetime sink overlap
    let m := m₀.through steps
    let experiments := (m₀.collect Manager.issuedExperiment? steps).map ExperimentId.value
    let conditions := (m₀.collect Manager.issuedCondition? steps).map ConditionId.value
    m.tables.Intact ∧ (∃ d m', Action.loadDataset.runOn m = (.ok d, m')) ∧
      (experiments.Nodup ∧ (∀ k ∈ experiments, k ≤ m.tables.lastExperiment) ∧
        ∀ x ∈ m.tables.experiments, x.id.value ∈ experiments) ∧
      (conditions.Nodup ∧ (∀ k ∈ conditions, k ≤ m.tables.lastCondition) ∧
        ∀ r ∈ m.tables.conditions, r.id.value ∈ conditions) ∧
      ∀ s, m.FilesIssued s := by
  intro m₀ m experiments conditions
  have hserves : m.Serves m.tables.catalog := Manager.serves_through lifetime sink overlap steps
  obtain ⟨hexperiments, hconditions⟩ :
      experiments = firstNumbers m.tables.lastExperiment ∧
        conditions = firstNumbers m.tables.lastCondition :=
    Manager.issued_through lifetime sink overlap steps
  obtain ⟨m', hload, -, -⟩ := Action.runOn_loadDataset hserves.outages hserves.managed.readable
  refine ⟨hserves.managed.intact, ⟨_, m', hload⟩, ?_, ?_, hserves.filesIssued⟩
  · rw [hexperiments]
    refine ⟨nodup_firstNumbers _, fun k hk => (mem_firstNumbers.mp hk).2, fun x hx => ?_⟩
    exact mem_firstNumbers.mpr (hserves.managed.experimentsFiled.given_of_mem hx)
  · rw [hconditions]
    refine ⟨nodup_firstNumbers _, fun k hk => (mem_firstNumbers.mp hk).2, fun r hr => ?_⟩
    exact mem_firstNumbers.mpr (hserves.managed.conditionsFiled.given_of_mem hr)

/-- A menu is deleted, its condition with it, before a banner is added. -/
def menuHistory : List ManagerStep :=
  [.call (.addExperiment "Theme" "theme" .session (Fin.last 99)),
    .call (.addExperiment "Menu" "menu" .request (Fin.last 99)),
    .call (.addCondition ⟨2⟩ ⟨"short", "", "CFG,menu,short", 100, []⟩),
    .call (.deleteExperiment "menu"),
    .call (.addExperiment "Banner" "banner" .device (Fin.last 99)),
    .call (.addCondition ⟨3⟩ ⟨"wide", "", "CFG,banner,wide", 100, []⟩)]

/-- The numbers of the menu and of its condition are not given again. -/
theorem menu_number_kept_back :
    let m₀ := Manager.fresh none .log false
    let m := m₀.through menuHistory
    let s : ManagerStep := .call (.addExperiment "Footer" "footer" .request 1)
    m₀.collect Manager.issuedExperiment? menuHistory = [⟨1⟩, ⟨2⟩, ⟨3⟩] ∧
      m₀.collect Manager.issuedCondition? menuHistory = [⟨1⟩, ⟨2⟩] ∧
      m.tables.experimentTable.rows.map Prod.fst = [1, 3] ∧
      m.tables.conditionTable.rows.map Prod.fst = [2] ∧ m.tables.Intact ∧
      m.issuedExperiment? s = some ⟨4⟩ ∧
      ∃ x : Experiment, x.id = ⟨4⟩ ∧ (m.step s).tables.experimentTable.get? 4 = some x := by
  intro m₀ m s
  have hissued : m.issuedExperiment? s = some ⟨4⟩ := by decide +kernel
  obtain ⟨hintact, -, -, -, hfiles⟩ := tables_intact_law none .log false menuHistory
  obtain ⟨x, hid, hrows⟩ := (hfiles s).experiment ⟨4⟩ hissued
  refine ⟨by decide +kernel, by decide +kernel, by decide +kernel, by decide +kernel, hintact,
    hissued, x, hid, SortedMap.get?_eq_some_iff.mpr ?_⟩
  rw [hrows]
  exact List.mem_append_right _ List.mem_cons_self

end SplitTest.Store

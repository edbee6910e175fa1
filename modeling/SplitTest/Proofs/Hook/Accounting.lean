import SplitTest.Proofs.Hook.HeldKeys
import SplitTest.Proofs.Host.Tally

/-!
# What a report accounts for

A hook chooses conditions and then looks each of them up by its name.  The name leads back to
the condition that was chosen (`Selected.condition?_of_chose`), since no two conditions of an
experiment share one, however often names were repeated in what the dataset was built of.  So
every choice fires, and the report counts each line of the conditions that fired once.

The rejections stand in the order in which the lines ran, and the site's log has got one
warning for each refused write among them (`report_accounts`).
-/

namespace SplitTest

open SplitTest.Store

/-! ## Datasets from groups -/

namespace Dataset

/-- The dataset of experiments that are given with their conditions, in order. -/
def ofGroups (groups : List (Experiment × List Condition)) : Dataset :=
  .ofList (groups.map fun g => Entry.ofList g.1 g.2)

end Dataset

/-- The condition that is given last under two names. -/
def lastGiven? (groups : List (Experiment × List Condition)) (shortname condset : String) :
    Option Condition :=
  (groups.reverse.find? fun g => g.1.shortname == shortname).bind fun g =>
    g.2.reverse.find? fun c => c.condset == condset

/-- **A dataset finds the condition that was given last under the names.** -/
theorem Dataset.find?_ofGroups (groups : List (Experiment × List Condition))
    (shortname condset : String) :
    ((ofGroups groups).find? shortname).bind (fun e => e.condition? condset) =
      lastGiven? groups shortname condset := by
  rw [ofGroups, Keyed.find?_ofList, ← List.map_reverse, List.find?_map, lastGiven?]
  show Option.bind (Option.map _ (groups.reverse.find? fun g => g.1.shortname == shortname)) _ = _
  cases groups.reverse.find? fun g => g.1.shortname == shortname with
  | none => rfl
  | some g => exact Keyed.find?_ofList g.2 condset

/-! ## Choices and what they lead to -/

namespace Selected

/-- The condition that was chosen: the one that the number falls on among those that are open
to the requester, and otherwise one of the experiment. -/
def Chose (x : Selected) (r : Requester) (c : Condition) : Prop :=
  c.condset = x.condset ∧
    match x.selection with
    | .draw n => (Selector.uniform n).select Condition.weight (x.entry.eligible r) = some c
    | .hash n => (Selector.stable n).select Condition.weight (x.entry.eligible r) = some c
    | .byOverride | .replay => c ∈ x.entry.conditions.items

theorem mem_of_select {e : Entry} {r : Requester} {s : Selector} {c : Condition}
    (h : s.select Condition.weight (e.eligible r) = some c) : c ∈ e.conditions.items :=
  List.mem_of_mem_filter (s.mem_of_select Condition.weight h)

/-- **The name of a choice leads back to the condition that was chosen.** -/
theorem condition?_of_chose {x : Selected} {r : Requester} {c : Condition} (h : x.Chose r c) :
    x.entry.condition? x.condset = some c := by
  obtain ⟨hname, hchose⟩ := h
  have hmem : c ∈ x.entry.conditions.items := by
    cases hs : x.selection with
    | draw n =>
      rw [hs] at hchose
      exact mem_of_select hchose
    | hash n =>
      rw [hs] at hchose
      exact mem_of_select hchose
    | byOverride =>
      rw [hs] at hchose
      exact hchose
    | replay =>
      rw [hs] at hchose
      exact hchose
  rw [← hname]
  exact Keyed.find?_of_mem hmem

/-- A name that is found chose the condition. -/
theorem chose_of_condition? {e : Entry} {condset : String} {r : Requester} {sel : Selection}
    (hs : sel = .byOverride ∨ sel = .replay) (h : (e.condition? condset).isSome = true) :
    ∃ c, (⟨e, condset, sel⟩ : Selected).Chose r c := by
  obtain ⟨c, hc⟩ := Option.isSome_iff_exists.mp h
  obtain ⟨hmem, hname⟩ := Keyed.find?_eq_some_iff.mp hc
  rcases hs with rfl | rfl
  · exact ⟨c, hname, hmem⟩
  · exact ⟨c, hname, hmem⟩

end Selected

section
variable {es : List Entry} {r : Requester}

theorem chose_overrides {asked : String → Option String} :
    ∀ x ∈ overrides asked es, ∃ c, x.Chose r c := by
  intro x hx
  obtain ⟨e, -, he⟩ := List.mem_filterMap.mp hx
  obtain ⟨c, hc, rfl⟩ := Option.map_eq_some_iff.mp he
  have hknown := (Entry.override?_eq_some_iff.mp hc).2.1
  exact Selected.chose_of_condition? (Or.inl rfl) (Entry.isSome_condition?_iff.mpr hknown)

theorem chose_drawnFrom {rolls : List (Entry × Nat)} :
    ∀ x ∈ drawnFrom r rolls, ∃ c, x.Chose r c := by
  intro x hx
  obtain ⟨roll, -, hroll⟩ := List.mem_filterMap.mp hx
  obtain ⟨c, hc, rfl⟩ := Option.map_eq_some_iff.mp hroll
  exact ⟨c, rfl, hc⟩

theorem chose_hashed {device : Device.Fingerprint} :
    ∀ x ∈ hashed device r es, ∃ c, x.Chose r c := by
  intro x hx
  obtain ⟨e, -, he⟩ := List.mem_filterMap.mp hx
  obtain ⟨c, hc, rfl⟩ := Option.map_eq_some_iff.mp he
  exact ⟨c, rfl, hc⟩

theorem chose_replays {s : Settings} {session : Session} :
    ∀ x ∈ replays s session es, ∃ c, x.Chose r c := by
  intro x hx
  obtain ⟨e, -, he⟩ := List.mem_filterMap.mp hx
  obtain ⟨c, hc, rfl⟩ := Option.map_eq_some_iff.mp he
  exact Selected.chose_of_condition? (Or.inr rfl) (Option.filter_eq_some_iff.mp hc).2

end

namespace EvaluationHook
variable {k : EvaluationHook} {s : Settings} {r : Request} {d : Dataset} {session : Session}
  {draws : Draws}

/-- **Every choice of a plan chose a condition.** -/
theorem chose_plan {device : Option Device.Fingerprint} :
    ∀ x ∈ (k.plan device s r d session draws).selected, ∃ c, x.Chose r.requester c := by
  intro x hx
  cases k with
  | afterConfig =>
    rcases List.mem_append.mp hx with hx | hx
    · rcases List.mem_append.mp hx with hx | hx
      · exact chose_overrides x hx
      · exact chose_drawnFrom x hx
    · exact chose_replays x hx
  | beforeSession =>
    cases device with
    | none => cases hx
    | some f =>
      rcases List.mem_append.mp hx with hx | hx
      · exact chose_overrides x hx
      · exact chose_hashed x hx
  | afterRequireLogin => exact chose_drawnFrom x hx

/-- What a hook chooses for a request: nothing if the gate stops it. -/
def chosen (k : EvaluationHook) (s : Settings) (r : Request) (d : Dataset) (session : Session)
    (draws : Draws) : List Selected :=
  match k.gate s r with
  | .proceed device => (k.plan device s r d session draws).selected
  | .switchedOff | .noDevice => []

theorem entry_mem_chosen : ∀ x ∈ k.chosen s r d session draws, x.entry ∈ d.items := by
  intro x hx
  unfold chosen at hx
  split at hx
  · exact entry_mem_plan x hx
  · cases hx
  · cases hx

end EvaluationHook

/-! ## What was run -/

/-- The batch of choices with the conditions that they lead to. -/
def batchOfRuns (runs : List (Selected × Condition)) : Batch :=
  runs.map fun run => (run.1.entry.shortname, run.2.commands)

theorem length_lines_batchOfRuns (runs : List (Selected × Condition)) :
    (batchOfRuns runs).lines.length = (runs.map fun run => run.2.commands.size).sum := by
  induction runs with
  | nil => rfl
  | cons run runs ih =>
    rw [batchOfRuns, List.map_cons, Batch.lines_cons, List.length_append, List.length_map,
      List.map_cons, List.sum_cons, ← ih]
    rfl

/-- The batch of the firings is that of the choices. -/
theorem Dataset.batch_eq_batchOfRuns {d : Dataset} {runs : List (Selected × Condition)}
    (hruns : ∀ run ∈ runs, run.1.entry ∈ d.items ∧
      run.1.entry.condition? run.1.condset = some run.2) :
    d.batch (runs.map fun run => run.1.firing) = batchOfRuns runs := by
  induction runs with
  | nil => rfl
  | cons run runs ih =>
    obtain ⟨⟨hmem, hfound⟩, hrest⟩ := List.forall_mem_cons.mp hruns
    have hcommands : d.commands? run.1.firing = some run.2.commands := by
      rw [commands?_firing hmem, hfound, Option.map_some]
    rw [List.map_cons, batch_cons_of_some hcommands, ih hrest]
    rfl

/-- **What a report accounts for**: choices with the conditions that they lead to, and what
running these changed about the site's log. -/
structure Report.Accounts (report : Report) (r : Requester) (choices : List Selected)
    (runs : List (Selected × Condition)) (before after : Host) : Prop where
  /-- Every choice is run, and none is left out. -/
  complete : runs.map Prod.fst = choices
  /-- Every choice fires, in order. -/
  firings : report.firings = choices.map Selected.firing
  /-- What is run is the condition that was chosen, and it is found by its name. -/
  conditions : ∀ run ∈ runs, run.1.Chose r run.2 ∧
    run.1.entry.condition? run.1.condset = some run.2
  /-- Every line of these conditions is counted once. -/
  total : report.execution.applied + report.execution.ignored + report.execution.rejected.length =
    (runs.map fun run => run.2.commands.size).sum
  /-- What is rejected are lines of these conditions, told with the experiment that fired, in
  the order in which they ran. -/
  rejected : (report.execution.rejected.map Rejection.place).Sublist
    (runs.flatMap fun run => run.2.commands.lines.map fun line => (run.1.firing.experiment, line))
  /-- The warnings that were added are those of the rejected writes, in order. -/
  warnings : after.log.warnings =
    before.log.warnings ++ report.execution.rejected.filterMap Rejection.warning?

/-- A performed plan is accounted for, if its choices are of the dataset. -/
theorem EvaluationHook.accounts_perform {d : Dataset} {p : Plan} {r : Requester}
    (hmem : ∀ x ∈ p.selected, x.entry ∈ d.items) (hchose : ∀ x ∈ p.selected, ∃ c, x.Chose r c)
    (h : Host) :
    ∃ runs, (perform h p).answer.Accounts r p.selected runs h (perform h p).host := by
  obtain ⟨runs, hruns, hall⟩ := exists_list_beside hchose
  have hfound run (hrun : run ∈ runs) := Selected.condition?_of_chose (hall run hrun)
  have hnames : ∀ x ∈ p.selected, x.NamesCondition := by
    intro x hx
    obtain ⟨c, hc⟩ := hchose x hx
    exact Entry.isSome_condition?_iff.mp
      (Option.isSome_of_eq_some (Selected.condition?_of_chose hc))
  have hfirings := firings_perform h hnames
  have hbatch : d.batch (perform h p).answer.firings = batchOfRuns runs := by
    rw [hfirings, ← hruns, List.map_map]
    refine Dataset.batch_eq_batchOfRuns fun run hrun => ⟨hmem run.1 ?_, hfound run hrun⟩
    rw [← hruns]
    exact List.mem_map_of_mem hrun
  obtain ⟨hhost, hexecution⟩ := perform_work hmem hnames h
  rw [hbatch] at hhost hexecution
  have hlines := Host.lines_lineRuns (batchOfRuns runs) h
  refine ⟨runs, hruns, hfirings, fun run hrun => ⟨hall run hrun, hfound run hrun⟩, ?_, ?_, ?_⟩
  · rw [hexecution, ExecutionReport.total_ofLineRuns, ← length_lines_batchOfRuns, ← hlines,
      List.length_map]
  · have hsub := ExecutionReport.rejected_sublist (h.lineRuns (batchOfRuns runs))
    rw [hlines, ← hexecution, batchOfRuns, Batch.lines, List.flatMap_map] at hsub
    exact hsub
  · rw [hhost, hexecution, ExecutionReport.warnings_ofLineRuns, ← Host.warnings_carryOut]

/-- A call that reports nothing has nothing to account for. -/
theorem Report.accounts_nothing {report : Report}
    (hreport : report = .empty ∨ report = .switchedOff) (r : Requester) (h : Host) :
    report.Accounts r [] [] h h := by
  have hexecution : report.execution = .empty := by
    rcases hreport with rfl | rfl <;> rfl
  have hfirings : report.firings = [] := by
    rcases hreport with rfl | rfl <;> rfl
  refine ⟨rfl, hfirings, ?_, ?_, ?_, ?_⟩
  · rintro run ⟨⟩
  · rw [hexecution]
    rfl
  · rw [hexecution]
    exact .slnil
  · rw [hexecution]
    exact (List.append_nil _).symm

/-- **A report accounts for every command**: every call of a hook on a dataset reports one
firing for each of its choices and counts each line of the conditions that fired once, the
condition of a firing being the one that was chosen, and among those of its names the one
that was given last. -/
theorem report_accounts (c : HookCall) (k : EvaluationHook) (s : Settings) (r : Request)
    (groups : List (Experiment × List Condition)) (h : Host) (draws : Draws)
    (hc : c.hook? = some k) :
    ∃ report runs,
      (c.run s r (.ok (.ofGroups groups)) h draws).answer = .report report ∧
      report.Accounts r.requester (k.chosen s r (.ofGroups groups) h.session draws) runs h
        (c.run s r (.ok (.ofGroups groups)) h draws).host ∧
      ∀ run ∈ runs, lastGiven? groups run.1.firing.experiment run.1.firing.condset = some run.2 := by
  have hgiven {runs : List (Selected × Condition)} {report : Report} {after : Host}
      (haccounts : report.Accounts r.requester (k.chosen s r (.ofGroups groups) h.session draws)
        runs h after) :
      ∀ run ∈ runs, lastGiven? groups run.1.firing.experiment run.1.firing.condset =
        some run.2 := by
    intro run hrun
    have hchoice : run.1 ∈ k.chosen s r (.ofGroups groups) h.session draws := by
      rw [← haccounts.complete]
      exact List.mem_map_of_mem hrun
    have hentry := EvaluationHook.entry_mem_chosen run.1 hchoice
    rw [← Dataset.find?_ofGroups, Selected.firing, Keyed.find?_of_mem hentry, Option.bind_some]
    exact (haccounts.conditions run hrun).2
  cases hg : k.gate s r with
  | proceed device =>
    have hchosen : k.chosen s r (.ofGroups groups) h.session draws =
        (k.plan device s r (.ofGroups groups) h.session draws).selected := by
      rw [EvaluationHook.chosen, hg]
    obtain ⟨runs, haccounts⟩ := EvaluationHook.accounts_perform
      (p := k.plan device s r (.ofGroups groups) h.session draws) EvaluationHook.entry_mem_plan
      EvaluationHook.chose_plan h
    rw [HookCall.run_eq_perform hc hg]
    rw [← hchosen] at haccounts
    exact ⟨_, runs, rfl, haccounts, hgiven haccounts⟩
  | _ =>
    have hstop (device : Option Device.Fingerprint) : k.gate s r ≠ .proceed device := by
      rw [hg]
      rintro ⟨⟩
    have hchosen : k.chosen s r (.ofGroups groups) h.session draws = [] := by
      rw [EvaluationHook.chosen, hg]
    rw [HookCall.run_stopped hc hstop, hchosen]
    exact ⟨_, [], rfl, Report.accounts_nothing (ite_eq_or_eq _ _ _).symm r.requester h,
      by rintro run ⟨⟩⟩

/-- A coin that is given twice, the second time with two contents for heads, whose commands
run into a fixed name, an unknown verb and a missing field. -/
def twiceGiven : List (Experiment × List Condition) :=
  let heads (lines : List String) : Condition :=
    ⟨⟨1⟩, ⟨1⟩, "heads", .parse "", ⟨lines⟩, 100, .empty⟩
  [((Entry.coin .request).experiment, [heads ["CFG,color,red"]]),
    ((Entry.coin .request).experiment,
      [heads [], heads ["CFG,theme,classic", "note", "js_header", "CFG,color,blue"]])]

/-- The call on a themed site counts the four lines that were given last, and warns once. -/
theorem twiceGiven_accounted :
    (HookCall.evaluate .afterConfig).hook? = some .afterConfig ∧
      let result := (HookCall.evaluate .afterConfig).run .standard (.browse false)
        (.ok (.ofGroups twiceGiven)) { Host.empty with config := .themed } (.constant 1)
      ∃ report runs, result.answer = .report report ∧
        report.Accounts (Request.browse false).requester
          (EvaluationHook.afterConfig.chosen .standard (.browse false) (.ofGroups twiceGiven)
            Host.empty.session (.constant 1)) runs { Host.empty with config := .themed }
          result.host ∧
        (report.execution.applied, report.execution.ignored, report.execution.rejected.length) =
          (1, 1, 2) ∧
        result.host.log.warnings =
          ["abconfig: can't override config `theme`: already set in static configuration"] := by
  obtain ⟨report, runs, ha, haccounts, -⟩ := report_accounts (.evaluate .afterConfig) .afterConfig
    .standard (.browse false) twiceGiven { Host.empty with config := .themed } (.constant 1) rfl
  refine ⟨rfl, report, runs, ha, haccounts, ?_, by decide⟩
  obtain rfl := HookAnswer.report.inj ha
  decide

end SplitTest

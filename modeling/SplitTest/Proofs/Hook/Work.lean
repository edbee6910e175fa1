import SplitTest.Proofs.Hook.Run
import SplitTest.Proofs.Host.Batch

/-!
# The work of a call

Apart from the session and the scripts of the page, all that a call changes about its host
comes from one batch: the commands of the conditions that its report tells of, in that order
(`Dataset.batch`).  The report is the tally of the lines of the batch (`HookCall.run_work`).

Over a run these batches are all that the configuration depends on, unless the site is
configured anew in between (`Visit.config_run`).
-/

namespace SplitTest

open SplitTest.Store

namespace Dataset

/-- The commands of the condition that a firing tells of. -/
def commands? (d : Dataset) (f : Firing) : Option CommandList :=
  ((d.find? f.experiment).bind fun e => e.condition? f.condset).map Condition.commands

/-- The commands of the conditions that firings tell of. -/
def batch (d : Dataset) (firings : List Firing) : Batch :=
  firings.filterMap fun f => (d.commands? f).map fun l => (f.experiment, l)

@[simp] theorem batch_nil (d : Dataset) : d.batch [] = [] := rfl

theorem batch_cons_of_some {d : Dataset} {f : Firing} {l : CommandList} (h : d.commands? f = some l)
    (fs : List Firing) : d.batch (f :: fs) = (f.experiment, l) :: d.batch fs := by
  simp [batch, h]

theorem batch_cons_of_none {d : Dataset} {f : Firing} (h : d.commands? f = none)
    (fs : List Firing) : d.batch (f :: fs) = d.batch fs := by
  simp [batch, h]

theorem batch_sublist (d : Dataset) (fs : List Firing) :
    ((d.batch fs).map Prod.fst).Sublist (fs.map Firing.experiment) := by
  induction fs with
  | nil => exact .slnil
  | cons f fs ih =>
    cases hf : d.commands? f with
    | none =>
      rw [batch_cons_of_none hf]
      exact ih.cons f.experiment
    | some l =>
      rw [batch_cons_of_some hf]
      exact ih.cons_cons f.experiment

end Dataset

/-! ## Choices are of the dataset -/

section
variable {es : List Entry}

theorem entry_mem_overrides {asked : String → Option String} :
    ∀ x ∈ overrides asked es, x.entry ∈ es := by
  intro x hx
  obtain ⟨e, he, hc⟩ := List.mem_filterMap.mp hx
  obtain ⟨c, -, rfl⟩ := Option.map_eq_some_iff.mp hc
  exact he

theorem entry_mem_drawnFrom {r : Requester} {draws : Draws} :
    ∀ x ∈ drawnFrom r (withDraws es draws), x.entry ∈ es := by
  intro x hx
  obtain ⟨roll, hroll, hc⟩ := List.mem_filterMap.mp hx
  obtain ⟨c, -, rfl⟩ := Option.map_eq_some_iff.mp hc
  exact (List.of_mem_zip hroll).1

theorem entry_mem_replays {s : Settings} {session : Session} :
    ∀ x ∈ replays s session es, x.entry ∈ es := by
  intro x hx
  obtain ⟨e, he, hc⟩ := List.mem_filterMap.mp hx
  obtain ⟨c, -, rfl⟩ := Option.map_eq_some_iff.mp hc
  exact he

theorem entry_mem_hashed {f : Device.Fingerprint} {r : Requester} :
    ∀ x ∈ hashed f r es, x.entry ∈ es := by
  intro x hx
  obtain ⟨e, he, hc⟩ := List.mem_filterMap.mp hx
  obtain ⟨c, -, rfl⟩ := Option.map_eq_some_iff.mp hc
  exact he

end

/-- Every choice of a plan is of an experiment of the dataset. -/
theorem EvaluationHook.entry_mem_plan {k : EvaluationHook} {device : Option Device.Fingerprint}
    {s : Settings} {r : Request} {d : Dataset} {session : Session} {draws : Draws} :
    ∀ x ∈ (k.plan device s r d session draws).selected, x.entry ∈ d.items := by
  intro x hx
  cases k with
  | afterConfig =>
    rcases List.mem_append.mp hx with hx | hx
    · rcases List.mem_append.mp hx with hx | hx
      · exact List.mem_of_mem_filter (entry_mem_overrides x hx)
      · exact List.mem_of_mem_filter (List.mem_of_mem_filter (entry_mem_drawnFrom x hx))
    · exact List.mem_of_mem_filter (entry_mem_replays x hx)
  | beforeSession =>
    cases device with
    | none => cases hx
    | some f =>
      rcases List.mem_append.mp hx with hx | hx
      · exact List.mem_of_mem_filter (entry_mem_overrides x hx)
      · exact List.mem_of_mem_filter (entry_mem_hashed x hx)
  | afterRequireLogin => exact undecided_sublist.subset (entry_mem_drawnFrom x hx)

/-! ## Firing carries out a batch -/

theorem Dataset.commands?_firing {d : Dataset} {x : Selected} (hx : x.entry ∈ d.items) :
    d.commands? x.firing = (x.entry.condition? x.condset).map Condition.commands := by
  rw [commands?, Selected.firing, Keyed.find?_of_mem hx, Option.bind_some]

/-- **Running chosen conditions carries out their commands**, and tallies them. -/
theorem Host.fire_eq_carryOut {d : Dataset} {xs : List Selected} (hxs : ∀ x ∈ xs, x.entry ∈ d.items) :
    ∀ (h : Host) (tally : ExecutionReport),
      (h.fire xs).1 = h.carryOut (d.batch (xs.map Selected.firing)) ∧
      (h.fire xs).2.foldl (fun acc run => acc.merge run.2) tally =
        tally.merge (.ofLineRuns (h.lineRuns (d.batch (xs.map Selected.firing)))) := by
  induction xs with
  | nil =>
    intro h tally
    exact ⟨rfl, by simp [ExecutionReport.merge, lineRuns, ExecutionReport.empty, fire]⟩
  | cons x xs ih =>
    intro h tally
    have ih' := ih fun y hy => hxs y (List.mem_cons_of_mem x hy)
    have hx := Dataset.commands?_firing (hxs x List.mem_cons_self)
    rw [List.map_cons, fire]
    cases hc : x.entry.condition? x.condset with
    | none =>
      rw [hc] at hx
      rw [Dataset.batch_cons_of_none hx]
      exact ih' h tally
    | some c =>
      rw [hc] at hx
      rw [Dataset.batch_cons_of_some hx]
      obtain ⟨hhost, htally⟩ := ih' (h.execute x.entry.shortname c.commands).1
        (tally.merge (h.execute x.entry.shortname c.commands).2)
      refine ⟨hhost, ?_⟩
      show ((h.execute x.entry.shortname c.commands).1.fire xs).2.foldl _
          (tally.merge (h.execute x.entry.shortname c.commands).2) = _
      rw [htally, execute_snd, ExecutionReport.merge_assoc, ← ExecutionReport.ofLineRuns_append]
      rfl

/-- Performing a plan carries out the batch of its report. -/
theorem EvaluationHook.perform_work {d : Dataset} {p : Plan}
    (hmem : ∀ x ∈ p.selected, x.entry ∈ d.items) (hnames : ∀ x ∈ p.selected, x.NamesCondition)
    (h : Host) :
    let batch := d.batch (perform h p).answer.firings
    (perform h p).host = { h.carryOut batch with session := p.session } ∧
      (perform h p).answer.execution = .ofLineRuns (h.lineRuns batch) := by
  rw [firings_perform h hnames]
  obtain ⟨hhost, htally⟩ := Host.fire_eq_carryOut hmem { h with session := p.session } .empty
  obtain ⟨hsession, hruns⟩ := Host.carryOut_withSession p.session
    (d.batch (p.selected.map Selected.firing)) h
  refine ⟨hhost.trans hsession, htally.trans ?_⟩
  rw [hruns, ExecutionReport.empty_merge]

/-- **The work of a call**: its host carries out the batch of its report, and the report
tallies the lines of the batch. -/
theorem HookCall.run_work {c : HookCall} {s : Settings} {r : Request} {d : Dataset} {h : Host}
    {draws : Draws} {report : Report} (ha : (c.run s r (.ok d) h draws).answer = .report report) :
    (c.run s r (.ok d) h draws).host =
        { h.carryOut (d.batch report.firings) with
          session := (c.run s r (.ok d) h draws).host.session } ∧
      report.execution = .ofLineRuns (h.lineRuns (d.batch report.firings)) := by
  rcases c.run_cases s r (.ok d) h draws with ⟨k, device, d', -, -, ⟨⟩, hrun⟩ | ⟨-, hidle⟩
  · rw [hrun] at ha ⊢
    obtain rfl := HookAnswer.report.inj ha
    obtain ⟨hhost, hexecution⟩ := EvaluationHook.perform_work
      (p := k.plan device s r d h.session draws) EvaluationHook.entry_mem_plan
      EvaluationHook.names_plan h
    simp only [EvaluationHook.session_perform]
    exact ⟨hhost, hexecution⟩
  · obtain ⟨hhost, hreport⟩ := hidle.report report ha
    rcases hreport with rfl | rfl
    · exact ⟨by rw [hhost]; rfl, rfl⟩
    · exact ⟨by rw [hhost]; rfl, rfl⟩

/-- A call without a report leaves the configuration. -/
theorem HookCall.config_run_of_no_report {c : HookCall} {s : Settings} {r : Request}
    {read : Except StoreError Dataset} {h : Host} {draws : Draws}
    (hread : ∀ d report, read = .ok d → (c.run s r read h draws).answer ≠ .report report) :
    (c.run s r read h draws).host.config = h.config := by
  rcases c.run_cases s r read h draws with ⟨k, device, d, -, -, rfl, hrun⟩ | ⟨-, hidle⟩
  · exact absurd (by rw [hrun]) (hread d _ rfl)
  · rw [← hidle.host]

/-! ## Runs -/

namespace Visit
variable {σ : Type} (source : Source σ)

/-- The batch of a call. -/
def batch (w : Visit σ) (c : HookCall) : Batch :=
  match (w.read source c).1, (w.result source c).answer with
  | .ok d, .report report => d.batch report.firings
  | _, _ => []

/-- The batches of the calls of a run, in order. -/
def batches (v : Visit σ) (steps : List (VisitStep σ)) : Batch :=
  (v.calls source steps).flatMap fun call => call.1.batch source call.2

/-- The site is not configured anew in a run. -/
def KeepsConfig (steps : List (VisitStep σ)) : Prop :=
  ∀ config, VisitStep.replaceConfig config ∉ steps

section
variable {source} {v w : Visit σ} {c : HookCall}

theorem batch_of_report {d : Dataset} {report : Report} (hd : (w.read source c).1 = .ok d)
    (ha : (w.result source c).answer = .report report) : w.batch source c = d.batch report.firings := by
  rw [batch, hd, ha]

theorem config_call :
    (w.call source c).2.host.config = (w.host.carryOut (w.batch source c)).config := by
  rw [host_call, batch]
  split
  · next d report hd ha =>
    rw [result, hd] at ha ⊢
    rw [(HookCall.run_work ha).1]
  · next hno =>
    refine HookCall.config_run_of_no_report fun d report hd ha => ?_
    exact hno d report hd ha

/-- **A run leaves the configuration that its batches leave.** -/
theorem config_run {steps : List (VisitStep σ)} (hsteps : KeepsConfig steps) :
    ∀ v : Visit σ,
      (v.run source steps).host.config = (v.host.carryOut (v.batches source steps)).config := by
  induction steps with
  | nil => intro v; rfl
  | cons step steps ih =>
    intro v
    have ih' := ih fun config hmem => hsteps config (List.mem_cons_of_mem step hmem)
    rw [run_cons, ih']
    cases step with
    | call c =>
      show _ = (v.host.carryOut (v.batch source c ++ (v.call source c).2.batches source steps)).config
      rw [Host.carryOut_append]
      exact Host.config_carryOut_congr _ config_call
    | replaceConfig config => exact absurd List.mem_cons_self (hsteps config)
    | _ =>
      -- other steps change the host, but not its configuration
      exact Host.config_carryOut_congr _ rfl

/-- Every call of a run is found after a part of it. -/
theorem exists_prefix_of_mem_calls {steps : List (VisitStep σ)} :
    ∀ {v : Visit σ}, (w, c) ∈ v.calls source steps →
      ∃ before after, steps = before ++ .call c :: after ∧ w = v.run source before := by
  induction steps with
  | nil => intro v h; cases h
  | cons step steps ih =>
    intro v h
    cases step with
    | call c' =>
      rcases List.mem_cons.mp h with h | h
      · obtain ⟨rfl, rfl⟩ := Prod.mk.inj h
        exact ⟨[], steps, rfl, rfl⟩
      · obtain ⟨before, after, rfl, rfl⟩ := ih h
        exact ⟨.call c' :: before, after, rfl, rfl⟩
    | _ =>
      obtain ⟨before, after, rfl, rfl⟩ := ih h
      exact ⟨_ :: before, after, rfl, rfl⟩

/-- The batches of a run go on from those of its first part. -/
theorem batches_append {before after : List (VisitStep σ)} :
    ∀ v : Visit σ, v.batches source (before ++ after) =
      v.batches source before ++ (v.run source before).batches source after := by
  intro v
  rw [batches, calls_append, List.flatMap_append]
  rfl

end

end Visit

end SplitTest

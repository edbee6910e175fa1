import SplitTest.Proofs.Hook.OncePerRequest
import SplitTest.Proofs.Hook.Skipping
import SplitTest.Proofs.Host.Channel
import SplitTest.Proofs.Host.Replay

/-!
# Conditions that fire again

What a session decided is replayed at every request, and its commands are carried out each
time.  On one configuration of the site that comes to carrying them out once: as long as they
grant no permission, nothing changes after the first time (`replay_law`).
-/

namespace SplitTest

open SplitTest.Store

namespace Visit
variable {σ : Type} (source : Source σ)

/-- All that fires in a run is the condset `y` of the experiment `x`, which has the commands
`l`. -/
structure Repeats (v : Visit σ) (x y : String) (l : CommandList) (steps : List (VisitStep σ)) :
    Prop where
  /-- It is what every firing tells of, in the dataset that its call read. -/
  fires : ∀ w c, (w, c) ∈ v.calls source steps → ∀ f ∈ (w.result source c).answer.firings,
    f.experiment = x ∧ f.condset = y ∧ ∀ d, (w.read source c).1 = .ok d → d.commands? f = some l
  /-- The site is not configured anew. -/
  configured : KeepsConfig steps

/-- A run is about one page, on which nothing is rendered. -/
structure KeepsScripts (steps : List (VisitStep σ)) : Prop where
  /-- No other request begins. -/
  continues : ∀ r scripts, VisitStep.begin r scripts ∉ steps
  /-- No call renders. -/
  evaluates : ∀ c, VisitStep.call c ∈ steps → c.hook? ≠ none

/-- **A run changes nothing after the first firing**: it leaves what executing the commands
once leaves. -/
structure SettlesAtOnce (v : Visit σ) (x : String) (l : CommandList) (steps : List (VisitStep σ)) :
    Prop where
  /-- At every point of the run, once something fired. -/
  config : ∀ before after, steps = before ++ after → v.firings source before ≠ [] →
    (v.run source before).host.config = (v.host.execute x l).1.config
  /-- The same of the scripts of the page, as long as it is one page. -/
  scripts : KeepsScripts steps → ∀ before after, steps = before ++ after →
    v.firings source before ≠ [] →
      (v.run source before).host.scripts = (v.host.execute x l).1.scripts

section
variable {source} {v w : Visit σ} {c : HookCall} {x y : String} {l : CommandList}
  {steps : List (VisitStep σ)}

/-- **What a call of a hook does to its host** beside the session is its batch. -/
theorem host_call_of_hook (hc : c.hook? ≠ none) : (w.call source c).2.host =
    { w.host.carryOut (w.batch source c) with session := (w.call source c).2.host.session } := by
  rw [host_call]
  cases hread : (w.read source c).1 with
  | ok d =>
    obtain ⟨k, hk⟩ := Option.ne_none_iff_exists'.mp hc
    obtain ⟨report, ha⟩ : ∃ report, (w.result source c).answer = .report report :=
      HookCall.exists_report_run hk fun _ => hread
    rw [batch_of_report hread ha]
    rw [result, hread] at ha ⊢
    exact (HookCall.run_work ha).1
  | error e =>
    have hskipped : (Encounter.mk c w.settings w.request (w.read source c).1).IsSkipped := by
      refine Or.inl ⟨e, ?_, hread⟩
      by_contra hreads
      rw [read, if_neg hreads] at hread
      cases hread
    have hhost : (w.result source c).host = w.host := (hskipped.unchanged w.host w.draws).1
    have hbatch : w.batch source c = [] := by
      rw [batch, hread]
    rw [hhost, hbatch]
    rfl

theorem KeepsScripts.tail {step : VisitStep σ} (hsteps : KeepsScripts (step :: steps)) :
    KeepsScripts steps :=
  ⟨fun r scripts hmem => hsteps.continues r scripts (List.mem_cons_of_mem step hmem),
    fun c hmem => hsteps.evaluates c (List.mem_cons_of_mem step hmem)⟩

theorem KeepsScripts.before {before after : List (VisitStep σ)}
    (hsteps : KeepsScripts (before ++ after)) : KeepsScripts before :=
  ⟨fun r scripts hmem => hsteps.continues r scripts (List.mem_append_left after hmem),
    fun c hmem => hsteps.evaluates c (List.mem_append_left after hmem)⟩

/-- **A run about one page leaves the scripts that its batches leave.** -/
theorem scripts_run (hsteps : KeepsScripts steps) : ∀ v : Visit σ,
    (v.run source steps).host.scripts = (v.host.carryOut (v.batches source steps)).scripts := by
  have hcongr {h h' : Host} (batch : Batch)
      (hscripts : Channel.scripts.content h = Channel.scripts.content h') :
      (h.carryOut batch).scripts = (h'.carryOut batch).scripts :=
    Host.content_carryOut_congr batch hscripts
  induction steps with
  | nil => exact fun v => rfl
  | cons step steps ih =>
    intro v
    rw [run_cons, ih hsteps.tail]
    cases step with
    | call c =>
      show _ = (v.host.carryOut
        (v.batch source c ++ (v.call source c).2.batches source steps)).scripts
      rw [Host.carryOut_append]
      refine hcongr _ ?_
      show (v.call source c).2.host.scripts = (v.host.carryOut (v.batch source c)).scripts
      rw [host_call_of_hook (hsteps.evaluates c List.mem_cons_self)]
    | begin r scripts => exact absurd List.mem_cons_self (hsteps.continues r scripts)
    | _ => exact hcongr _ rfl

/-- A call carries out the commands of what it fires, in the dataset that it read. -/
theorem batch_cases (w : Visit σ) (c : HookCall) :
    (∃ d, (w.read source c).1 = .ok d ∧
        w.batch source c = d.batch (w.result source c).answer.firings) ∨
      w.batch source c = [] ∧ (w.result source c).answer.firings = [] := by
  cases hread : (w.read source c).1 with
  | ok d => exact Or.inl ⟨d, rfl, batch_of_reads fun _ => hread⟩
  | error e =>
    refine Or.inr ⟨by rw [batch, hread], ?_⟩
    rcases c.run_cases w.settings w.request (w.read source c).1 w.host w.draws with
      ⟨k, device, d, -, -, hd, -⟩ | ⟨-, hidle⟩
    · rw [hread] at hd
      cases hd
    · exact hidle.firings

/-- **The batches of a run that repeats a condition** are its commands, once for each firing. -/
theorem Repeats.batches_eq (hrep : v.Repeats source x y l steps) :
    v.batches source steps = List.replicate (v.firings source steps).length (x, l) := by
  rw [← List.map_const', batches, firings, List.map_flatMap]
  refine List.flatMap_congr ?_
  rintro ⟨w, c⟩ hw
  have hfires := hrep.fires w c hw
  rcases batch_cases w c with ⟨d, hd, hbatch⟩ | ⟨hbatch, hnone⟩
  · rw [hbatch, Dataset.batch, ← List.filterMap_eq_map]
    refine List.filterMap_congr fun f hf => ?_
    obtain ⟨hx, -, hcommands⟩ := hfires f hf
    rw [hcommands d hd, hx]
    rfl
  · rw [hbatch, hnone]
    rfl

/-- A part of a run that repeats a condition repeats it. -/
theorem Repeats.before {before after : List (VisitStep σ)}
    (hrep : v.Repeats source x y l (before ++ after)) : v.Repeats source x y l before := by
  refine ⟨fun w c hw => hrep.fires w c ?_, fun config hmem => ?_⟩
  · rw [calls_append]
    exact List.mem_append_left _ hw
  · exact hrep.configured config (List.mem_append_left after hmem)

/-- What a run that repeats a condition leaves, once something fired. -/
theorem Repeats.batches_succ (hrep : v.Repeats source x y l steps)
    (hfired : v.firings source steps ≠ []) :
    ∃ n, v.batches source steps = List.replicate (n + 1) (x, l) := by
  obtain ⟨n, hn⟩ := Nat.exists_eq_succ_of_ne_zero (mt List.length_eq_zero_iff.mp hfired)
  exact ⟨n, by rw [hrep.batches_eq, hn]⟩

theorem Repeats.settles (hrep : v.Repeats source x y l steps) (hl : l.GrantsNothing) :
    v.SettlesAtOnce source x l steps := by
  refine ⟨?_, fun hkeeps => ?_⟩
  · rintro before after rfl hfired
    obtain ⟨n, hbatches⟩ := hrep.before.batches_succ hfired
    rw [config_run hrep.before.configured, hbatches]
    exact ((Host.execute_again hl v.host x).times n).1
  · rintro before after rfl hfired
    obtain ⟨n, hbatches⟩ := hrep.before.batches_succ hfired
    rw [scripts_run hkeeps.before, hbatches]
    exact ((Host.execute_again hl v.host x).times n).2

end

end Visit

/-- **Carrying out commands again changes nothing** about the configuration and the scripts of
the page, if they grant no permission, on every host.  So a condition that fires over and over
on one configuration of the site, as one that the session decided does, changes nothing after
the first time. -/
theorem replay_law (l : CommandList) (hl : l.GrantsNothing) :
    (∀ (h : Host) (x : String), h.Repeatable x l) ∧
      ∀ {σ : Type} (source : Source σ) (v : Visit σ) (x y : String) (steps : List (VisitStep σ)),
        v.Repeats source x y l steps → v.SettlesAtOnce source x l steps :=
  ⟨Host.execute_again hl, fun _ _ _ _ _ hrep => hrep.settles hl⟩

/-- Commands on a setting that the site fixed, on one of a plugin, and for the page. -/
def CommandList.recolor : CommandList :=
  ⟨["CFG,theme,classic", "CFG,lang,en", "forced_plugin_setting,forum,tags,1", "CFG,lang,de",
    "js_footer,recolor()"]⟩

/-- One experiment, which always recolors the site for the session. -/
def Dataset.recolored : Dataset :=
  .ofList [{ Entry.coin .session with
    conditions := .ofList [⟨⟨1⟩, ⟨1⟩, "heads", .parse "", .recolor, 100, .empty⟩] }]

/-- A visit to the site. -/
def Visit.recolored : Visit (Except StoreError Dataset) where
  source := .ok .recolored
  settings := .standard
  request := .flip ""
  host := { Host.empty with config := .lenient }
  draws := .constant 1
  events := []

/-- The site is recolored at the login, and replaying that at two more requests leaves it as it
is. -/
theorem recolored_once :
    let steps : List (VisitStep (Except StoreError Dataset)) :=
      [.call (.evaluate .afterRequireLogin),
        .begin (.flip "") .empty, .call (.evaluate .afterConfig),
        .begin (.flip "") .empty, .call (.evaluate .afterConfig)]
    let f : Selection → Firing := fun s => ⟨"coin", "heads", s⟩
    Visit.recolored.firings .fixed steps = [f (.draw 1), f .replay, f .replay] ∧
      (Visit.recolored.run .fixed steps).host.config =
        (Visit.recolored.host.execute "coin" .recolor).1.config := by
  intro steps f
  have hfirings : Visit.recolored.firings .fixed steps = [f (.draw 1), f .replay, f .replay] := by
    decide
  have hrep : Visit.recolored.Repeats .fixed "coin" "heads" .recolor steps := by
    refine ⟨fun w c hw g hg => ?_, by simp [Visit.KeepsConfig, steps]⟩
    have hname : g.experiment = "coin" ∧ g.condset = "heads" := by
      have hmem : g ∈ Visit.recolored.firings .fixed steps := List.mem_flatMap.mpr ⟨_, hw, hg⟩
      rw [hfirings] at hmem
      simp only [f, List.mem_cons, List.not_mem_nil, or_false] at hmem
      rcases hmem with rfl | rfl | rfl <;> exact ⟨rfl, rfl⟩
    have hread : (w.read .fixed c).1 = .ok .recolored := by
      simp only [steps, Visit.calls, List.mem_cons, List.not_mem_nil, or_false,
        Prod.mk.injEq] at hw
      rcases hw with ⟨rfl, rfl⟩ | ⟨rfl, rfl⟩ | ⟨rfl, rfl⟩ <;> rfl
    refine ⟨hname.1, hname.2, fun d hd => ?_⟩
    obtain rfl := Except.ok.inj (hread.symm.trans hd)
    rw [Dataset.commands?, hname.1, hname.2]
    rfl
  refine ⟨hfirings, ((replay_law .recolor (by decide)).2 .fixed .recolored "coin" "heads" steps
    hrep).config steps [] (List.append_nil steps).symm ?_⟩
  rw [hfirings]
  exact List.cons_ne_nil _ _

end SplitTest

import SplitTest.Proofs.Hook.OneVariant
import SplitTest.Proofs.Hook.SessionMemory
import SplitTest.Proofs.Hook.Work

/-!
# Once per request

A request calls the hooks in order, before the session, once the configuration was read and
after login, and renders scripts in between.  If it asks for no condition, every experiment
fires at most once in all these calls (`once_per_request_law`).

What a call fires is placed by the scope of the experiment and by the session that the call
finds (`Entry.FiresAt`, `HookCall.firesAt_run`).  Two calls can only share the experiments of
the session.  The earlier of them replays those that the session holds, the later decides
those that it does not hold, and a session forgets nothing (`Entry.FiresAt.exclusive`).
-/

namespace SplitTest

open SplitTest.Store

/-- A request asks for no condition of a dataset. -/
def Request.AsksNothing (r : Request) (s : Settings) (d : Dataset) : Prop :=
  ∀ e ∈ d.items, ∀ c, ¬r.AsksFor s e c ∧ ¬r.AsksDevice e c

/-- Where an experiment fires that nobody asks for, and how, in a call that finds a
session. -/
inductive Entry.FiresAt (s : Settings) (session : Session) (e : Entry) :
    EvaluationHook → Selection → Prop where
  /-- A device experiment, by the bucket of the device. -/
  | hashed (n : Nat) : e.scope = .device → FiresAt s session e .beforeSession (.hash n)
  /-- A request or after-config experiment, by a draw. -/
  | drawn (n : Nat) : e.scope = .request ∨ e.scope = .afterConfig →
      FiresAt s session e .afterConfig (.draw n)
  /-- A session experiment that the session has decided, by that decision. -/
  | replayed : e.scope = .session → session.contains (s.sessionKey e.shortname) = true →
      FiresAt s session e .afterConfig .replay
  /-- A session experiment that the session has yet to decide, by a draw. -/
  | decided (n : Nat) : e.scope = .session →
      session.contains (s.sessionKey e.shortname) = false →
      FiresAt s session e .afterRequireLogin (.draw n)

/-- The firings that an answer tells of. -/
def HookAnswer.firings : HookAnswer → List Firing
  | .report r => r.firings
  | _ => []

/-- The order in which a request calls the hooks. -/
def EvaluationHook.order : List EvaluationHook :=
  [.beforeSession, .afterConfig, .afterRequireLogin]

/-- The hook that a step calls. -/
def VisitStep.hook? {σ : Type} : VisitStep σ → Option EvaluationHook
  | .call c => c.hook?
  | _ => none

/-! ## Plans of requests that ask for nothing -/

section
variable {s : Settings} {r : Request} {d : Dataset} {session : Session} {draws : Draws}

theorem AfterConfigLaw.firesAt {fs : List Firing} {left : Draws}
    (law : AfterConfigLaw s r d session draws fs left) (hr : r.AsksNothing s d) :
    ∀ f ∈ fs, ∃ e, d.find? f.experiment = some e ∧ e.enabled = true ∧
      e.FiresAt s session .afterConfig f.selection := by
  obtain ⟨overrides, drawing, drawn, replays, rfl, ho, horder, hd, -, hreplays⟩ := law
  obtain rfl := ho.eq_nil_iff.mpr fun e he f ⟨c, hc, _⟩ => (hr e he c).1 hc
  rw [List.nil_append]
  intro f hf
  rcases List.mem_append.mp hf with hf | hf
  · obtain ⟨roll, hroll, c, -, rfl⟩ := hd.exists_of_mem hf
    obtain ⟨he, hen, hscope, -⟩ := (horder.2 roll.1).mp (List.fst_mem_of_mem_zipIdx hroll)
    exact ⟨roll.1, Keyed.find?_of_mem he, hen, .drawn _ (hscope.imp_right And.left)⟩
  · obtain ⟨e, he, c, ⟨hen, hscope, hmemo, -⟩, rfl⟩ := hreplays.exists_of_mem hf
    refine ⟨e, Keyed.find?_of_mem he, hen, .replayed hscope ?_⟩
    rw [Keyed.contains, ← Option.isSome_map]
    exact Option.isSome_of_eq_some hmemo

/-- Before the session the buckets alone choose. -/
theorem Request.AsksNothing.firings_beforeSession (hr : r.AsksNothing s d)
    (device : Device.Fingerprint) :
    (Plan.beforeSession device r d session draws).selected.map Selected.firing =
      (hashed device r.requester (d.activeIn .device)).map Selected.firing := by
  have hnone := deviceOverrides_eq_nil_iff.mpr fun e he c => (hr e he c).2
  rw [Plan.beforeSession, List.map_append, hnone, List.nil_append]

/-- **A plan fires each experiment where its scope has it.** -/
theorem EvaluationHook.firesAt_plan {k : EvaluationHook} {device : Option Device.Fingerprint}
    (hr : r.AsksNothing s d) :
    ∀ f ∈ (k.plan device s r d session draws).selected.map Selected.firing,
      ∃ e, d.find? f.experiment = some e ∧ e.enabled = true ∧
        e.FiresAt s session k f.selection := by
  cases k with
  | afterConfig => exact afterConfigLaw_plan.firesAt hr
  | beforeSession =>
    cases device with
    | none => rintro f ⟨⟩
    | some device =>
      rw [plan, hr.firings_beforeSession]
      intro f hf
      obtain ⟨e, he, hen, hscope, c, -, rfl⟩ := (firingsOf_hashed device).exists_of_mem hf
      exact ⟨e, Keyed.find?_of_mem he, hen, .hashed _ hscope⟩
  | afterRequireLogin =>
    have hscope : ∀ e ∈ undecided s r.requester session d, e.scope ≠ .device := fun e he => by
      rw [(mem_undecided_iff.mp he).2.1.2]
      simp
    have hdrawn : FiringsOf (draws.Fires r.requester) _ _ := firingsOf_drawnFrom hscope
    intro f hf
    obtain ⟨roll, hroll, c, -, rfl⟩ := hdrawn.exists_of_mem hf
    obtain ⟨he, ⟨hen, hscope⟩, -, habsent⟩ :=
      mem_undecided_iff.mp (List.fst_mem_of_mem_zipIdx hroll)
    exact ⟨roll.1, Keyed.find?_of_mem he, hen, .decided _ hscope habsent⟩

/-- A plan that overrides nothing names each experiment once. -/
theorem EvaluationHook.nodup_plan {k : EvaluationHook} {device : Option Device.Fingerprint}
    (hr : r.AsksNothing s d) :
    (((k.plan device s r d session draws).selected.map Selected.firing).map
      Firing.experiment).Nodup := by
  cases k with
  | afterConfig =>
    exact afterConfigLaw_plan.nodup_iff.mpr fun e he ⟨⟨f, c, hc, _⟩, _⟩ => (hr e he c).1 hc
  | beforeSession =>
    cases device with
    | none => exact List.nodup_nil
    | some device =>
      rw [plan, hr.firings_beforeSession]
      exact (firingsOf_hashed device).nodup fun _ _ => experiment_hashFires
  | afterRequireLogin => exact nodup_afterRequireLogin

end

/-! ## Calls -/

namespace HookCall

section
variable {c : HookCall} {k : EvaluationHook} {s : Settings} {r : Request} {d : Dataset}
  {read : Except StoreError Dataset} {h : Host} {draws : Draws}

/-- A call that reads its dataset, if it reads any, answers a report. -/
theorem exists_report_run (hc : c.hook? = some k)
    (hread : c.readsDataset s r = true → read = .ok d) :
    ∃ report, (c.run s r read h draws).answer = .report report := by
  cases c with
  | evaluate k' => exact ⟨_, rfl⟩
  | evaluateStrictly k' =>
    obtain rfl := Option.some.inj hc
    simp only [run, EvaluationHook.attempt]
    cases hg : k'.gate s r with
    | switchedOff => exact ⟨_, rfl⟩
    | noDevice => exact ⟨_, rfl⟩
    | proceed device =>
      rw [hread (readsDataset_of_gate rfl hg)]
      exact ⟨_, rfl⟩
  | render p => cases hc
  | renderStrictly p => cases hc

end

end HookCall

theorem HookResult.Idle.firings {h : Host} {draws : Draws} {result : HookResult HookAnswer}
    (hidle : result.Idle h draws) : result.answer.firings = [] := by
  cases ha : result.answer with
  | report report => exact hidle.silent report ha
  | text t => rfl
  | failure e => rfl

/-- **What a call fires** if nothing is asked for: each experiment once, and where its scope
and the session that the call finds have it. -/
theorem HookCall.firesAt_run (c : HookCall) {s : Settings} {r : Request} {d : Dataset}
    {read : Except StoreError Dataset} (h : Host) (draws : Draws) (hr : r.AsksNothing s d)
    (hread : c.readsDataset s r = true → read = .ok d) :
    ((c.run s r read h draws).answer.firings.map Firing.experiment).Nodup ∧
      ∀ f ∈ (c.run s r read h draws).answer.firings, ∃ k e, c.hook? = some k ∧
        d.find? f.experiment = some e ∧ e.enabled = true ∧
        e.FiresAt s h.session k f.selection := by
  rcases c.run_cases s r read h draws with ⟨k, device, d', hc, hg, rfl, -⟩ | ⟨-, hidle⟩
  · obtain rfl := Except.ok.inj (hread (readsDataset_of_gate hc hg))
    obtain ⟨report, ha, -, hf⟩ := run_firings d' h draws hc hg
    rw [ha, HookAnswer.firings, hf]
    refine ⟨EvaluationHook.nodup_plan hr, fun f hf => ?_⟩
    obtain ⟨e, he, hen, hat⟩ := EvaluationHook.firesAt_plan hr f hf
    exact ⟨k, e, hc, he, hen, hat⟩
  · rw [hidle.firings]
    exact ⟨List.nodup_nil, by rintro f ⟨⟩⟩

/-- A session experiment is replayed or decided, as the session has it. -/
theorem Entry.FiresAt.of_session {s : Settings} {e : Entry} {session : Session}
    {k : EvaluationHook} {x : Selection} (h : e.FiresAt s session k x)
    (hscope : e.scope = .session) :
    k = .afterConfig ∧ session.contains (s.sessionKey e.shortname) = true ∨
      k = .afterRequireLogin ∧ session.contains (s.sessionKey e.shortname) = false := by
  cases h with
  | hashed n hs => rw [hscope] at hs; cases hs
  | drawn n hs => rcases hs with hs | hs <;> rw [hscope] at hs <;> cases hs
  | replayed hs hheld => exact Or.inl ⟨rfl, hheld⟩
  | decided n hs habsent => exact Or.inr ⟨rfl, habsent⟩

theorem Entry.FiresAt.of_ne_session {s : Settings} {e : Entry} {session : Session}
    {k : EvaluationHook} {x : Selection} (h : e.FiresAt s session k x)
    (hscope : e.scope ≠ .session) :
    k = if e.scope = .device then .beforeSession else .afterConfig := by
  cases h with
  | hashed n hs => rw [if_pos hs]
  | drawn n hs =>
    have hne : e.scope ≠ .device := by rcases hs with hs | hs <;> rw [hs] <;> simp
    rw [if_neg hne]
  | replayed hs hheld => exact absurd hs hscope
  | decided n hs habsent => exact absurd hs hscope

/-- **No experiment fires at two hooks of a request**, if what the session holds at the
first it holds at the second. -/
theorem Entry.FiresAt.exclusive {s : Settings} {e : Entry} {session session' : Session}
    {k k' : EvaluationHook} {x x' : Selection} (h : e.FiresAt s session k x)
    (h' : e.FiresAt s session' k' x') (hne : k ≠ k') (hlast : k ≠ .afterRequireLogin)
    (hkept : ∀ key, session.contains key = true → session'.contains key = true) : False := by
  by_cases hscope : e.scope = .session
  · -- replayed first, so that there is nothing to decide at last
    obtain ⟨hk, hheld⟩ := (h.of_session hscope).resolve_right fun ⟨hk, _⟩ => hlast hk
    rcases h'.of_session hscope with ⟨hk', -⟩ | ⟨-, habsent⟩
    · exact hne (hk.trans hk'.symm)
    · rw [hkept _ hheld] at habsent
      cases habsent
  · exact hne ((h.of_ne_session hscope).trans (h'.of_ne_session hscope).symm)

/-! ## Requests -/

namespace Visit
variable {σ : Type} (source : Source σ)

/-- The firings of the reports of a run, in order. -/
def firings (v : Visit σ) (steps : List (VisitStep σ)) : List Firing :=
  (v.calls source steps).flatMap fun call => (call.1.result source call.2).answer.firings

/-- A run is one request on one dataset. -/
structure OneRequest (v : Visit σ) (d : Dataset) (steps : List (VisitStep σ)) : Prop where
  /-- The hooks are called in their order, each at most once. -/
  hooks : (steps.filterMap VisitStep.hook?).Sublist EvaluationHook.order
  /-- No other request begins. -/
  continues : ∀ r scripts, VisitStep.begin r scripts ∉ steps
  /-- Every call that reads a dataset reads this one. -/
  reads : ∀ w c, (w, c) ∈ v.calls source steps → c.readsDataset w.settings w.request = true →
    (w.read source c).1 = .ok d

section
variable {source} {v w : Visit σ} {c : HookCall} {d : Dataset} {steps : List (VisitStep σ)}

/-- Until another begins, the request and the settings stay. -/
theorem request_run (hsteps : ∀ r scripts, VisitStep.begin r scripts ∉ steps) :
    ∀ v : Visit σ, (v.run source steps).request = v.request ∧
      (v.run source steps).settings = v.settings := by
  induction steps with
  | nil => intro v; exact ⟨rfl, rfl⟩
  | cons step steps ih =>
    intro v
    have ih' := ih (fun r scripts hmem => hsteps r scripts (List.mem_cons_of_mem step hmem))
      (v.step source step)
    cases step with
    | begin r scripts => exact absurd List.mem_cons_self (hsteps r scripts)
    | _ => exact ih'

theorem request_of_mem_calls (hsteps : ∀ r scripts, VisitStep.begin r scripts ∉ steps)
    (hw : (w, c) ∈ v.calls source steps) :
    w.request = v.request ∧ w.settings = v.settings := by
  obtain ⟨before, after, rfl, rfl⟩ := exists_prefix_of_mem_calls hw
  exact request_run (fun r scripts hmem => hsteps r scripts (List.mem_append_left _ hmem)) v

/-- The hooks that a run calls are those of its steps. -/
theorem filterMap_hook?_calls :
    ∀ v : Visit σ, (v.calls source steps).filterMap (fun call => call.2.hook?) =
      steps.filterMap VisitStep.hook? := by
  induction steps with
  | nil => intro v; rfl
  | cons step steps ih =>
    intro v
    cases step with
    | call c =>
      rw [calls, List.filterMap_cons, List.filterMap_cons, ih]
      rfl
    | _ => exact ih _

/-- **A session forgets nothing** from one call of a run to a later one. -/
theorem pairwise_session :
    ∀ v : Visit σ, (v.calls source steps).Pairwise fun x y =>
      ∀ key, x.1.host.session.contains key = true → y.1.host.session.contains key = true := by
  induction steps with
  | nil => intro v; exact List.Pairwise.nil
  | cons step steps ih =>
    intro v
    cases step with
    | call c =>
      refine List.Pairwise.cons ?_ (ih _)
      -- a later call is found after a part of the run, which only adds to the session
      rintro ⟨w, c'⟩ hw key hheld
      obtain ⟨before, after, -, rfl⟩ := exists_prefix_of_mem_calls hw
      rw [Keyed.contains_iff_mem_keys] at hheld ⊢
      show key ∈ (v.run source (.call c :: before)).host.session.items.map Prod.fst
      rw [session_run, List.map_append]
      exact List.mem_append_left _ hheld
    | _ => exact ih _

/-- The hooks of two calls of one request are different, and the earlier is not the last. -/
theorem OneRequest.pairwise_hooks (hone : v.OneRequest source d steps) :
    (v.calls source steps).Pairwise fun x y => ∀ k k', x.2.hook? = some k →
      y.2.hook? = some k' → k ≠ k' ∧ k ≠ .afterRequireLogin := by
  have horder : EvaluationHook.order.Pairwise fun k k' => k ≠ k' ∧ k ≠ .afterRequireLogin := by
    decide
  have hcalls : (v.calls source steps).filterMap (fun call => call.2.hook?) =
      steps.filterMap VisitStep.hook? := filterMap_hook?_calls v
  have hsub := hone.hooks
  rw [← hcalls] at hsub
  refine (List.pairwise_filterMap.mp (horder.sublist hsub)).imp ?_
  exact fun h k k' hk hk' => h k hk k' hk'

/-- A call of the request reads its dataset, and finds its request. -/
theorem OneRequest.call_reads (hone : v.OneRequest source d steps)
    (hw : (w, c) ∈ v.calls source steps) :
    w.request = v.request ∧ w.settings = v.settings ∧
      (c.readsDataset v.settings v.request = true → (w.read source c).1 = .ok d) := by
  obtain ⟨hrequest, hsettings⟩ := request_of_mem_calls hone.continues hw
  refine ⟨hrequest, hsettings, fun hreads => hone.reads w c hw ?_⟩
  rw [hrequest, hsettings]
  exact hreads

/-- **What a call of the request fires**, if it asks for nothing. -/
theorem OneRequest.firesAt (hone : v.OneRequest source d steps)
    (hr : v.request.AsksNothing v.settings d) (hw : (w, c) ∈ v.calls source steps) :
    ((w.result source c).answer.firings.map Firing.experiment).Nodup ∧
      ∀ f ∈ (w.result source c).answer.firings, ∃ k e, c.hook? = some k ∧
        d.find? f.experiment = some e ∧ e.enabled = true ∧
        e.FiresAt v.settings w.host.session k f.selection := by
  obtain ⟨hrequest, hsettings, hread⟩ := hone.call_reads hw
  rw [result, hrequest, hsettings]
  exact c.firesAt_run w.host w.draws hr hread

/-- Two calls of the request have no experiment in common. -/
theorem OneRequest.pairwise_disjoint (hone : v.OneRequest source d steps)
    (hr : v.request.AsksNothing v.settings d) :
    (v.calls source steps).Pairwise fun x y =>
      ((x.1.result source x.2).answer.firings.map Firing.experiment).Disjoint
        ((y.1.result source y.2).answer.firings.map Firing.experiment) := by
  refine (hone.pairwise_hooks.and (pairwise_session v)).imp_of_mem ?_
  rintro ⟨w, c⟩ ⟨w', c'⟩ hw hw' ⟨hhooks, hkept⟩ x hx hx'
  obtain ⟨f, hf, rfl⟩ := List.mem_map.mp hx
  obtain ⟨f', hf', hname⟩ := List.mem_map.mp hx'
  obtain ⟨k, e, hk, he, -, hat⟩ := (hone.firesAt hr hw).2 f hf
  obtain ⟨k', e', hk', he', -, hat'⟩ := (hone.firesAt hr hw').2 f' hf'
  rw [hname] at he'
  -- both calls read one dataset, so that one name is one experiment
  obtain rfl := Option.some.inj (he.symm.trans he')
  obtain ⟨hne, hlast⟩ := hhooks k k' hk hk'
  exact hat.exclusive hat' hne hlast hkept

/-- A call carries out the commands of what it fires. -/
theorem batch_of_reads
    (hread : c.readsDataset w.settings w.request = true → (w.read source c).1 = .ok d) :
    w.batch source c = d.batch (w.result source c).answer.firings := by
  rcases c.run_cases w.settings w.request (w.read source c).1 w.host w.draws with
    ⟨k, device, d', hc, hg, hd, hrun⟩ | ⟨-, hidle⟩
  · obtain rfl : d' = d :=
      Except.ok.inj (hd.symm.trans (hread (HookCall.readsDataset_of_gate hc hg)))
    obtain ⟨report, ha⟩ : ∃ report, (w.result source c).answer = .report report := by
      rw [result, hrun]
      exact ⟨_, rfl⟩
    rw [batch_of_report hd ha, ha]
    rfl
  · -- nothing fired, whichever dataset was read
    have hnone : (w.result source c).answer.firings = [] := hidle.firings
    rw [hnone, Dataset.batch_nil, batch]
    split
    · next d' report _ ha => rw [hidle.silent report ha, Dataset.batch_nil]
    · rfl

theorem OneRequest.batches_eq (hone : v.OneRequest source d steps) :
    v.batches source steps = d.batch (v.firings source steps) := by
  rw [batches, firings, Dataset.batch, List.filterMap_flatMap]
  refine List.flatMap_congr fun call hcall => ?_
  exact batch_of_reads (hone.reads call.1 call.2 hcall)

end

/-- **The law of one request.** -/
structure FiresOnce (v : Visit σ) (d : Dataset) (steps : List (VisitStep σ)) : Prop where
  /-- Every call of a hook answers a report. -/
  answered : ∀ w c, (w, c) ∈ v.calls source steps → c.hook? ≠ none →
    ∃ report, (w.call source c).1 = .report report
  /-- In all reports taken together no experiment is named twice. -/
  once : ((v.firings source steps).map Firing.experiment).Nodup
  /-- What fires is an enabled experiment of the dataset, where its scope has it. -/
  placed : ∀ w c f, (w, c) ∈ v.calls source steps → f ∈ (w.call source c).1.firings →
    ∃ k e, c.hook? = some k ∧ d.find? f.experiment = some e ∧ e.enabled = true ∧
      e.FiresAt v.settings w.host.session k f.selection
  /-- In all calls taken together the commands of no experiment are carried out twice. -/
  carriedOut : ((v.batches source steps).map Prod.fst).Nodup

end Visit

/-- **Once per request.**  If a request asks for no condition, every experiment fires at most
once in all its calls, where its scope has it, and its commands are carried out once: whatever
the requester, the session, the configuration and the draws are, and whatever the site does
between the calls. -/
theorem once_per_request_law {σ : Type} (source : Source σ) (v : Visit σ) (d : Dataset)
    (steps : List (VisitStep σ)) (hone : v.OneRequest source d steps)
    (hr : v.request.AsksNothing v.settings d) : v.FiresOnce source d steps := by
  -- each call by itself, and any two of them
  have honce : ((v.firings source steps).map Firing.experiment).Nodup := by
    rw [Visit.firings, List.map_flatMap]
    refine List.nodup_flatMap.mpr ⟨fun call hcall => ?_, hone.pairwise_disjoint hr⟩
    exact (hone.firesAt hr hcall).1
  refine ⟨fun w c hw hc => ?_, honce, fun w c f hw hf => ?_, ?_⟩
  · obtain ⟨k, hk⟩ := Option.ne_none_iff_exists'.mp hc
    exact HookCall.exists_report_run hk (hone.reads w c hw)
  · exact (hone.firesAt hr hw).2 f hf
  · rw [hone.batches_eq]
    exact honce.sublist (d.batch_sublist _)

/-- A coin of the session scope has nothing to replay, and is decided after login. -/
theorem coin_fires_once :
    let v := Visit.ofCoin .session (.flip "")
    let steps : List (VisitStep _) := [.call (.evaluate .beforeSession),
      .call (.evaluate .afterConfig), .call (.evaluate .afterRequireLogin)]
    v.firings .fixed steps = [⟨"coin", "heads", .draw 1⟩] ∧
      v.FiresOnce .fixed (.ofList [Entry.coin .session]) steps := by
  refine ⟨by decide, once_per_request_law .fixed _ _ _ ⟨by decide, by simp, ?_⟩ ?_⟩
  · rintro w c hw -
    simp only [Visit.calls, List.mem_cons, List.not_mem_nil, or_false, Prod.mk.injEq] at hw
    rcases hw with ⟨rfl, rfl⟩ | ⟨rfl, rfl⟩ | ⟨rfl, rfl⟩ <;> rfl
  · rintro e he c
    obtain rfl : e = Entry.coin .session := List.mem_singleton.mp he
    constructor
    · rintro ⟨-, -, hc, -, hasked⟩
      have hempty : (Request.flip "").env.get? (Settings.standard.envVar "coin") = some "" := rfl
      exact hc (Option.some.inj (hasked.symm.trans hempty))
    · rintro ⟨-, hscope, -⟩
      cases hscope

end SplitTest

import SplitTest.Hook.Visit
import SplitTest.Proofs.Hook.Firing

/-!
# Calls

A call of a hook either evaluates or idles (`HookCall.run_cases`).  It evaluates when its
hook chooses conditions, the request passes the gate and the dataset can be read: then it
performs the plan of the hook (`HookCall.run_eq_perform`), which leaves the session and
the draws of the plan and reports one firing for each choice (`firings_perform`).  A call
that idles fires nothing, draws nothing and changes no more than the scripts of the page
(`HookResult.Idle`).
-/

namespace SplitTest

open SplitTest.Store

/-! ## Choices name conditions -/

section
variable {s : Settings} {r : Request} {session : Session} {es : List Entry}

theorem names_overrides {asked : String → Option String} :
    ∀ x ∈ overrides asked es, x.NamesCondition := by
  intro x hx
  obtain ⟨e, -, he⟩ := List.mem_filterMap.mp hx
  obtain ⟨c, hc, rfl⟩ := Option.map_eq_some_iff.mp he
  exact (Entry.override?_eq_some_iff.mp hc).2.1

theorem names_drawnFrom {r : Requester} {rolls : List (Entry × Nat)} :
    ∀ x ∈ drawnFrom r rolls, x.NamesCondition := by
  intro x hx
  obtain ⟨roll, -, hroll⟩ := List.mem_filterMap.mp hx
  obtain ⟨c, hc, rfl⟩ := Option.map_eq_some_iff.mp hroll
  exact List.mem_map_of_mem (List.mem_of_mem_filter (Selector.mem_of_select _ _ hc))

theorem names_replays : ∀ x ∈ replays s session es, x.NamesCondition := by
  intro x hx
  obtain ⟨e, -, he⟩ := List.mem_filterMap.mp hx
  obtain ⟨c, hc, rfl⟩ := Option.map_eq_some_iff.mp he
  exact Entry.isSome_condition?_iff.mp (Option.filter_eq_some_iff.mp hc).2

theorem names_hashed {device : Device.Fingerprint} {r : Requester} :
    ∀ x ∈ hashed device r es, x.NamesCondition := by
  intro x hx
  obtain ⟨e, -, he⟩ := List.mem_filterMap.mp hx
  obtain ⟨c, hc, rfl⟩ := Option.map_eq_some_iff.mp he
  exact List.mem_map_of_mem (List.mem_of_mem_filter (Selector.mem_of_select _ _ hc))

end

namespace EvaluationHook

/-- Every choice of a plan names a condition of its experiment. -/
theorem names_plan {k : EvaluationHook} {device : Option Device.Fingerprint} {s : Settings}
    {r : Request} {d : Dataset} {session : Session} {draws : Draws} :
    ∀ x ∈ (k.plan device s r d session draws).selected, x.NamesCondition := by
  intro x hx
  cases k with
  | afterConfig =>
    rcases List.mem_append.mp hx with hx | hx
    · rcases List.mem_append.mp hx with hx | hx
      · exact names_overrides x hx
      · exact names_drawnFrom x hx
    · exact names_replays x hx
  | beforeSession =>
    cases device with
    | none => cases hx
    | some f =>
      rcases List.mem_append.mp hx with hx | hx
      · exact names_overrides x hx
      · exact names_hashed x hx
  | afterRequireLogin => exact names_drawnFrom x hx

/-! ## Performing a plan -/

section
variable (h : Host) (p : Plan)

@[simp] theorem session_perform : (perform h p).host.session = p.session :=
  Host.session_fire p.selected { h with session := p.session }

/-- **A performed plan reports one firing for each choice**, in order. -/
theorem firings_perform {p : Plan} (hp : ∀ x ∈ p.selected, x.NamesCondition) :
    (perform h p).answer.firings = p.selected.map Selected.firing :=
  Host.firings_fire hp { h with session := p.session }

/-- What performing a plan reports: what choosing reports, then what running does. -/
theorem events_perform :
    ∃ runs : List (Firing × ExecutionReport), (perform h p).events = p.events ++ runs.flatMap runEvents :=
  ⟨_, rfl⟩

end

end EvaluationHook

/-! ## Evaluating and idling -/

/-- A call on a host and draws left nothing behind but scripts of the page. -/
structure HookResult.Idle (h : Host) (draws : Draws) (result : HookResult HookAnswer) :
    Prop where
  /-- Only the scripts of the page can differ. -/
  host : { h with scripts := result.host.scripts } = result.host
  /-- Nothing was drawn. -/
  draws : result.draws = draws
  /-- A call that reports leaves them as well, and tells of nothing but that the request
  switched experiments off. -/
  report : ∀ report, result.answer = .report report →
    result.host = h ∧ (report = .empty ∨ report = .switchedOff)
  /-- At most a failure is reported. -/
  events : ∀ e ∈ result.events, (∃ k error, e = .evaluationSkipped k error) ∨
    ∃ p error, e = .renderingSkipped p error

theorem HookResult.Idle.silent {h : Host} {draws : Draws} {result : HookResult HookAnswer}
    (hidle : result.Idle h draws) :
    ∀ report, result.answer = .report report → report.firings = [] := by
  intro report ha
  rcases (hidle.report report ha).2 with rfl | rfl <;> rfl

namespace HookCall

/-- The hook of a call that evaluates, none for one that renders. -/
def hook? : HookCall → Option EvaluationHook
  | evaluate k | evaluateStrictly k => some k
  | render _ | renderStrictly _ => none

section
variable {c : HookCall} {k : EvaluationHook} {s : Settings} {r : Request} {h : Host}
  {draws : Draws}

/-- Both forms of a call read the dataset when their hook does. -/
theorem readsDataset_eq (hc : c.hook? = some k) : c.readsDataset s r = k.readsDataset s r := by
  cases c with
  | evaluate k' =>
    obtain rfl := Option.some.inj hc
    rfl
  | evaluateStrictly k' =>
    obtain rfl := Option.some.inj hc
    rfl
  | render p => cases hc
  | renderStrictly p => cases hc

theorem readsDataset_of_gate {device : Option Device.Fingerprint} (hc : c.hook? = some k)
    (hg : k.gate s r = .proceed device) : c.readsDataset s r = true := by
  rw [readsDataset_eq hc, EvaluationHook.readsDataset, hg]

/-- **A call that passes its gate performs the plan of its hook**, in either form. -/
theorem run_eq_perform {device : Option Device.Fingerprint} {d : Dataset}
    (hc : c.hook? = some k) (hg : k.gate s r = .proceed device) :
    c.run s r (.ok d) h draws =
      let result := EvaluationHook.perform h (k.plan device s r d h.session draws)
      ⟨.report result.answer, result.host, result.draws, result.events⟩ := by
  cases c with
  | evaluate k' =>
    obtain rfl := Option.some.inj hc
    simp only [run, EvaluationHook.run, EvaluationHook.attempt, hg]
  | evaluateStrictly k' =>
    obtain rfl := Option.some.inj hc
    simp only [run, EvaluationHook.attempt, hg]
  | render p => cases hc
  | renderStrictly p => cases hc

/-- An attempt that does not go ahead leaves everything as it was. -/
theorem attempt_stopped (h : Host) (draws : Draws) {read : Except StoreError Dataset}
    (hstop : ∀ device d, k.gate s r = .proceed device → read ≠ .ok d) :
    ∃ answer, k.attempt s r read h draws = ⟨answer, h, draws, []⟩ ∧
      ∀ report, answer = .ok report → report = .empty ∨ report = .switchedOff := by
  unfold EvaluationHook.attempt
  cases hg : k.gate s r with
  | switchedOff => exact ⟨_, rfl, by rintro report ⟨⟩; exact Or.inr rfl⟩
  | noDevice => exact ⟨_, rfl, by rintro report ⟨⟩; exact Or.inl rfl⟩
  | proceed device =>
    cases read with
    | error e => exact ⟨_, rfl, by rintro report ⟨⟩⟩
    | ok d => exact absurd rfl (hstop device d hg)

/-- **A call evaluates or idles.** -/
theorem run_cases (c : HookCall) (s : Settings) (r : Request)
    (read : Except StoreError Dataset) (h : Host) (draws : Draws) :
    (∃ k device d, c.hook? = some k ∧ k.gate s r = .proceed device ∧ read = .ok d ∧
      c.run s r read h draws =
        let result := EvaluationHook.perform h (k.plan device s r d h.session draws)
        ⟨.report result.answer, result.host, result.draws, result.events⟩) ∨
    (∀ k device d, c.hook? = some k → k.gate s r = .proceed device → read ≠ .ok d) ∧
      (c.run s r read h draws).Idle h draws := by
  -- one plan is performed if hook, gate and dataset are all there
  by_cases hgo : ∃ k device d, c.hook? = some k ∧ k.gate s r = .proceed device ∧ read = .ok d
  · obtain ⟨k, device, d, hc, hg, rfl⟩ := hgo
    exact Or.inl ⟨k, device, d, hc, hg, rfl, run_eq_perform hc hg⟩
  · have hstop k device d (hc : c.hook? = some k) (hg : k.gate s r = .proceed device) :
        read ≠ .ok d := fun hd => hgo ⟨k, device, d, hc, hg, hd⟩
    refine Or.inr ⟨hstop, ?_⟩
    cases c with
    | evaluate k =>
      obtain ⟨answer, he, hs⟩ := attempt_stopped h draws fun device d => hstop k device d rfl
      simp only [run, EvaluationHook.run, he]
      cases answer with
      | ok report => exact ⟨rfl, rfl, by rintro _ ⟨⟩; exact ⟨rfl, hs report rfl⟩, by simp⟩
      | error e => exact ⟨rfl, rfl, by rintro _ ⟨⟩; exact ⟨rfl, Or.inl rfl⟩, by simp⟩
    | evaluateStrictly k =>
      obtain ⟨answer, he, hs⟩ := attempt_stopped h draws fun device d => hstop k device d rfl
      simp only [run, he]
      cases answer with
      | ok report => exact ⟨rfl, rfl, by rintro _ ⟨⟩; exact ⟨rfl, hs report rfl⟩, by simp⟩
      | error e => exact ⟨rfl, rfl, by rintro _ ⟨⟩, by simp⟩
    | render p =>
      simp only [run, ScriptPosition.render]
      cases p.attempt s r read h.scripts with
      | ok result => exact ⟨rfl, rfl, by rintro _ ⟨⟩, by simp⟩
      | error e => exact ⟨rfl, rfl, by rintro _ ⟨⟩, by simp⟩
    | renderStrictly p =>
      simp only [run]
      cases p.attempt s r read h.scripts with
      | ok result => exact ⟨rfl, rfl, by rintro _ ⟨⟩, by simp⟩
      | error e => exact ⟨rfl, rfl, by rintro _ ⟨⟩, by simp⟩

/-- A call that its gate stops reports no more than that, whatever it would have read. -/
theorem run_stopped {read : Except StoreError Dataset} (hc : c.hook? = some k)
    (hg : ∀ device, k.gate s r ≠ .proceed device) :
    c.run s r read h draws =
      ⟨.report (if k.gate s r = .switchedOff then .switchedOff else .empty), h, draws, []⟩ := by
  have hattempt : k.attempt s r read h draws =
      ⟨.ok (if k.gate s r = .switchedOff then .switchedOff else .empty), h, draws, []⟩ := by
    unfold EvaluationHook.attempt
    cases hgate : k.gate s r with
    | proceed device => exact absurd hgate (hg device)
    | switchedOff => rfl
    | noDevice => rfl
  cases c with
  | evaluate k' =>
    obtain rfl := Option.some.inj hc
    simp only [run, EvaluationHook.run, hattempt]
  | evaluateStrictly k' =>
    obtain rfl := Option.some.inj hc
    simp only [run, hattempt]
  | render p => cases hc
  | renderStrictly p => cases hc

/-- The report of a call that evaluates. -/
theorem run_firings {device : Option Device.Fingerprint} (d : Dataset) (h : Host)
    (draws : Draws) (hc : c.hook? = some k) (hg : k.gate s r = .proceed device) :
    ∃ report, (c.run s r (.ok d) h draws).answer = .report report ∧
      report.disabled = false ∧
      report.firings = (k.plan device s r d h.session draws).selected.map Selected.firing := by
  rw [run_eq_perform hc hg]
  exact ⟨_, rfl, rfl, EvaluationHook.firings_perform h EvaluationHook.names_plan⟩

end

end HookCall

end SplitTest

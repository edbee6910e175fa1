import SplitTest.Proofs.Hook.Run

/-!
# What a request can steer

A guest steers nothing by what a request carries.  A call reads the request in two places,
at its gate and in its plan, so two requests that agree on both have the same call
(`HookCall.run_congr`).  The parameters of a guest get to neither, except before the session,
where everyone can switch experiments off and ask for a condition of a device experiment;
there a call reads nothing else of the request but the device (`guest_steering_law`).
-/

namespace SplitTest

open SplitTest.Store

namespace Request

/-- Two requests of one requester differ at most in their parameters and, for a browser, in
their environment. -/
structure DiffersInInput (r r' : Request) : Prop where
  /-- They are made by the same requester. -/
  requester : r'.requester = r.requester
  /-- They run in the same way. -/
  mode : r'.mode = r.mode
  /-- In a shell they have the same environment. -/
  env : r.mode = .cli → r'.env = r.env

/-- Two requests come from one device, and carry the same word for switching experiments
off, or none. -/
structure SharesDevice (s : Settings) (r r' : Request) : Prop where
  /-- They have the same address. -/
  address : r'.requester.address = r.requester.address
  /-- They have the same user agent. -/
  userAgent : r'.requester.userAgent = r.requester.userAgent
  /-- They switch experiments off, or neither does. -/
  disabled : r'.disabledBy s.disableParam = r.disabledBy s.disableParam

/-- Two requests carry the same parameters for the enabled device experiments of a
dataset. -/
def AgreesOn (d : Dataset) (r r' : Request) : Prop :=
  ∀ e ∈ d.items, e.enabled = true → e.scope = .device →
    r'.param? e.shortname = r.param? e.shortname

end Request

/-! ## Gates and plans that agree -/

section
variable {k : EvaluationHook} {c : HookCall} {s : Settings} {r r' : Request}
  {read : Except StoreError Dataset} {h : Host} {draws : Draws}

/-- An attempt reads the request at its gate and in its plan. -/
theorem EvaluationHook.attempt_congr (hgate : k.gate s r' = k.gate s r)
    (hplan : ∀ device d, k.gate s r = .proceed device → read = .ok d →
      k.plan device s r' d h.session draws = k.plan device s r d h.session draws) :
    k.attempt s r' read h draws = k.attempt s r read h draws := by
  unfold attempt
  rw [hgate]
  cases hg : k.gate s r with
  | switchedOff => rfl
  | noDevice => rfl
  | proceed device =>
    cases read with
    | error e => rfl
    | ok d => simp only [hplan device d hg rfl]

/-- **Requests that pass the gate alike and have the same plan have the same call.** -/
theorem HookCall.run_congr (hc : c.hook? = some k) (hgate : k.gate s r' = k.gate s r)
    (hplan : ∀ device d, k.gate s r = .proceed device → read = .ok d →
      k.plan device s r' d h.session draws = k.plan device s r d h.session draws) :
    c.run s r' read h draws = c.run s r read h draws := by
  have hattempt := EvaluationHook.attempt_congr hgate hplan
  cases c with
  | evaluate k' =>
    obtain rfl := Option.some.inj hc
    simp only [run, EvaluationHook.run, hattempt]
  | evaluateStrictly k' =>
    obtain rfl := Option.some.inj hc
    simp only [run, hattempt]
  | render p => cases hc
  | renderStrictly p => cases hc

/-- Rendering reads of a request whether it is switched off, and nothing else. -/
theorem HookCall.run_congr_of_render (hc : c.hook? = none)
    (hdisabled : r'.adminDisabled s = r.adminDisabled s) :
    c.run s r' read h draws = c.run s r read h draws := by
  have hattempt (p : ScriptPosition) :
      p.attempt s r' read h.scripts = p.attempt s r read h.scripts := by
    simp only [ScriptPosition.attempt, hdisabled]
  cases c with
  | evaluate k => cases hc
  | evaluateStrictly k => cases hc
  | render p => simp only [run, ScriptPosition.render, hattempt]
  | renderStrictly p => simp only [run, hattempt]

theorem HookCall.readsDataset_congr (hc : c.hook? = some k) (hgate : k.gate s r' = k.gate s r) :
    c.readsDataset s r' = c.readsDataset s r := by
  rw [readsDataset_eq hc, readsDataset_eq hc, EvaluationHook.readsDataset,
    EvaluationHook.readsDataset, hgate]

theorem HookCall.readsDataset_congr_of_render (hc : c.hook? = none)
    (hdisabled : r'.adminDisabled s = r.adminDisabled s) :
    c.readsDataset s r' = c.readsDataset s r := by
  cases c with
  | evaluate k => cases hc
  | evaluateStrictly k => cases hc
  | render p => simp only [readsDataset, ScriptPosition.readsDataset, hdisabled]
  | renderStrictly p => simp only [readsDataset, ScriptPosition.readsDataset, hdisabled]

end

/-! ## The requests of a guest -/

section
variable {s : Settings} {r r' : Request} {d : Dataset} {session : Session} {draws : Draws}

/-- A guest cannot switch off the hooks that know the user. -/
theorem Request.adminDisabled_of_guest (hguest : r.requester.isAdmin = false) :
    r.adminDisabled s = false := by
  rw [adminDisabled, hguest, Bool.false_and]

/-- What a guest asks for once the configuration was read comes from the environment of a
shell. -/
theorem Request.DiffersInInput.askedAfterConfig (hr : r.DiffersInInput r')
    (hguest : r.requester.isAdmin = false) : r'.askedAfterConfig s = r.askedAfterConfig s := by
  funext x
  rw [Request.askedAfterConfig, Request.askedAfterConfig, hr.mode, hr.requester, hguest]
  cases hmode : r.mode with
  | cli => simp only [Request.envVar?, hr.env hmode]
  | web => rfl

/-- The plans of a guest do not depend on the input, except before the session. -/
theorem Request.DiffersInInput.plan {k : EvaluationHook} {device : Option Device.Fingerprint}
    (hr : r.DiffersInInput r') (hguest : r.requester.isAdmin = false) (hk : k ≠ .beforeSession) :
    k.plan device s r' d session draws = k.plan device s r d session draws := by
  cases k with
  | afterConfig =>
    simp only [EvaluationHook.plan, Plan.afterConfig, hr.askedAfterConfig hguest, hr.requester]
  | beforeSession => exact absurd rfl hk
  | afterRequireLogin =>
    simp only [EvaluationHook.plan, Plan.afterRequireLogin, hr.requester]

theorem Request.DiffersInInput.adminDisabled (hr : r.DiffersInInput r')
    (hguest : r.requester.isAdmin = false) : r'.adminDisabled s = r.adminDisabled s := by
  have hguest' : r'.requester.isAdmin = false := by
    rw [hr.requester]
    exact hguest
  rw [adminDisabled_of_guest hguest, adminDisabled_of_guest hguest']

theorem Request.DiffersInInput.gate {k : EvaluationHook} (hr : r.DiffersInInput r')
    (hguest : r.requester.isAdmin = false) (hk : k ≠ .beforeSession) :
    k.gate s r' = k.gate s r := by
  cases k with
  | afterConfig => simp only [EvaluationHook.gate, hr.adminDisabled hguest]
  | beforeSession => exact absurd rfl hk
  | afterRequireLogin => simp only [EvaluationHook.gate, hr.adminDisabled hguest]

/-! ## The requests of a device -/

theorem Request.SharesDevice.gate (hr : r.SharesDevice s r') :
    EvaluationHook.beforeSession.gate s r' = EvaluationHook.beforeSession.gate s r := by
  simp only [EvaluationHook.gate, Request.device?, hr.address, hr.userAgent, hr.disabled]

/-- Of the conditions of a device experiment the same are open to every requester of one
address. -/
theorem Entry.eligible_of_device {e : Entry} {q q' : Requester} (he : e.scope = .device)
    (haddress : q'.address = q.address) : e.eligible q' = e.eligible q := by
  refine List.filter_congr fun c _ => ?_
  rw [he, Condition.isEligible_device, Condition.isEligible_device, haddress]

/-- **The plan before the session** depends on the device and on the parameters of the
enabled device experiments. -/
theorem Request.SharesDevice.plan {device : Option Device.Fingerprint}
    (hr : r.SharesDevice s r') (hd : r.AgreesOn d r') :
    EvaluationHook.beforeSession.plan device s r' d session draws =
      EvaluationHook.beforeSession.plan device s r d session draws := by
  have hactive : ∀ e ∈ d.activeIn .device,
      e.scope = .device ∧ r'.param? e.shortname = r.param? e.shortname := by
    intro e he
    obtain ⟨hmem, hkeep⟩ := List.mem_filter.mp he
    rw [Bool.and_eq_true, beq_iff_eq] at hkeep
    exact ⟨hkeep.2, hd e hmem hkeep.1 hkeep.2⟩
  cases device with
  | none => rfl
  | some f =>
    have hoverrides : overrides r'.param? (d.activeIn .device) =
        overrides r.param? (d.activeIn .device) :=
      List.filterMap_congr fun e he => by rw [(hactive e he).2]
    have hunknown : unknownOverrides r'.param? (d.activeIn .device) =
        unknownOverrides r.param? (d.activeIn .device) :=
      List.filterMap_congr fun e he => by rw [(hactive e he).2]
    have hhashed : hashed f r'.requester (d.activeIn .device) =
        hashed f r.requester (d.activeIn .device) :=
      List.filterMap_congr fun e he => by
        rw [Entry.eligible_of_device (hactive e he).1 hr.address]
    simp only [EvaluationHook.plan, Plan.beforeSession, Dataset.overridableBeforeSession,
      hoverrides, hunknown, hhashed]

end

/-! ## Calls -/

namespace Visit
variable {σ : Type} (source : Source σ)

/-- A call answers two requests alike, and leaves the same behind: the host with its
session, configuration, headers, log and scripts, the draws, the events and the source. -/
def AnswersAlike (v : Visit σ) (r' : Request) (c : HookCall) : Prop :=
  { v with request := r' }.call source c =
    ((v.call source c).1, { (v.call source c).2 with request := r' })

variable {source} {v : Visit σ} {r' : Request} {c : HookCall}

theorem answersAlike_of_run
    (hreads : c.readsDataset v.settings r' = c.readsDataset v.settings v.request)
    (hrun : c.run v.settings r' (v.read source c).1 v.host v.draws = v.result source c) :
    v.AnswersAlike source r' c := by
  have hread : { v with request := r' }.read source c = v.read source c := by
    simp only [read, hreads]
  have hresult : { v with request := r' }.result source c = v.result source c := by
    rw [result, hread]
    exact hrun
  rw [AnswersAlike, call_eq, call_eq, hread, hresult]

end Visit

/-- **What a request can steer.**  To a guest every call but that before the session answers
alike whatever the input is.  The call before the session answers alike to the requests of
one device that agree on switching off and on the enabled device experiments. -/
theorem guest_steering_law {σ : Type} (source : Source σ) (v : Visit σ) (r' : Request)
    (c : HookCall) :
    (c.hook? ≠ some .beforeSession → v.request.requester.isAdmin = false →
      v.request.DiffersInInput r' → v.AnswersAlike source r' c) ∧
    (c.hook? = some .beforeSession → v.request.SharesDevice v.settings r' →
      (∀ d, (v.read source c).1 = .ok d → v.request.AgreesOn d r') →
        v.AnswersAlike source r' c) := by
  refine ⟨fun hc hguest hr => ?_, fun hc hr hd => ?_⟩
  · cases hk : c.hook? with
    | none =>
      exact Visit.answersAlike_of_run
        (HookCall.readsDataset_congr_of_render hk (hr.adminDisabled hguest))
        (HookCall.run_congr_of_render hk (hr.adminDisabled hguest))
    | some k =>
      have hne : k ≠ .beforeSession := fun he => hc (he ▸ hk)
      exact Visit.answersAlike_of_run
        (HookCall.readsDataset_congr hk (hr.gate hguest hne))
        (HookCall.run_congr hk (hr.gate hguest hne) fun _ _ _ _ => hr.plan hguest hne)
  · exact Visit.answersAlike_of_run (HookCall.readsDataset_congr hc hr.gate)
      (HookCall.run_congr hc hr.gate fun _ d _ hread => hr.plan (hd d hread))

/-- A guest whose browser asks for the condset `c` of a coin. -/
def Request.ask (c : String) : Request where
  requester := ⟨some "192.0.2.1", some "ua", none, false⟩
  mode := .web
  params := .ofList [("coin", c)]
  env := .empty

/-- A guest who asks for the other side of a coin does not turn it.  Before the session a guest
gets the side of a device's coin that is asked for, beside the one of the device, whatever else
the request carries. -/
theorem coin_answers_alike :
    let plain := Request.ask "tails"
    let busy : Request := { plain with
      params := .ofList [("theme", "dark"), ("coin", "tails"), ("abconfig", "on")]
      env := .ofList [("ABCONFIG_COIN", "heads")] }
    (Visit.ofCoin .request (.ask "heads")).AnswersAlike .fixed plain (.evaluate .afterConfig) ∧
      (Visit.ofCoin .device plain).AnswersAlike .fixed busy (.evaluate .beforeSession) ∧
      ((Visit.ofCoin .device plain).call .fixed (.evaluate .beforeSession)).1 = .report
        { Report.empty with
          firings := [⟨"coin", "tails", .byOverride⟩, ⟨"coin", "heads", .hash 7⟩] } := by
  intro plain busy
  refine ⟨?_, ?_, by decide +kernel⟩
  · exact (guest_steering_law .fixed _ _ _).1 (by decide) rfl ⟨rfl, rfl, fun _ => rfl⟩
  · refine (guest_steering_law .fixed _ _ _).2 rfl ⟨rfl, rfl, by decide +kernel⟩ ?_
    rintro d ⟨⟩ e he - -
    obtain rfl : e = Entry.coin .device := List.mem_singleton.mp he
    decide

end SplitTest

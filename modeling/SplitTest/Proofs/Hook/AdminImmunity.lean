import SplitTest.Proofs.Hook.OncePerRequest

/-!
# What fires for administrators

Draws and buckets spare administrators: whatever they choose is a device experiment, or one
that is open to administrators (`EvaluationHook.mem_firings_plan`).  Replaying asks nobody.  An
experiment that is closed to administrators still fires for one if the session remembers a
condset of it, and this is the one way in which it can, apart from overrides
(`Visit.breaches_iff`).  What the session remembers was decided at a login of a requester whom
the experiment did take in (`Visit.decided_of_get?`), say of the same user before becoming an
administrator.
-/

namespace SplitTest

open SplitTest.Store

/-- An experiment takes administrators in. -/
def Entry.TakesAdmins (e : Entry) : Prop :=
  e.scope = .device ∨ e.experiment.adminEnabled = true

/-! ## What a plan fires -/

section
variable {k : EvaluationHook} {device : Option Device.Fingerprint} {s : Settings} {r : Request}
  {d : Dataset} {session : Session} {draws : Draws}

theorem AfterConfigLaw.firing_cases {fs : List Firing} {left : Draws}
    (law : AfterConfigLaw s r d session draws fs left) {f : Firing} (hf : f ∈ fs) :
    f.selection = .byOverride ∨ ∃ e, d.find? f.experiment = some e ∧
      (e.AdmitsTo r.requester ∨ f.selection = .replay ∧ e.RememberedIn s session f.condset) := by
  obtain ⟨overrides, drawing, drawn, replays, rfl, ho, horder, hd, -, hr⟩ := law
  rcases List.mem_append.mp hf with hf | hf
  · rcases List.mem_append.mp hf with hf | hf
    · obtain ⟨e, -, c, -, rfl⟩ := ho.exists_of_mem hf
      exact Or.inl rfl
    · obtain ⟨roll, hroll, c, -, rfl⟩ := hd.exists_of_mem hf
      obtain ⟨he, -, -, hadmits⟩ := (horder.2 roll.1).mp (List.fst_mem_of_mem_zipIdx hroll)
      exact Or.inr ⟨roll.1, Keyed.find?_of_mem he, Or.inl hadmits⟩
  · obtain ⟨e, he, c, hc, rfl⟩ := hr.exists_of_mem hf
    exact Or.inr ⟨e, Keyed.find?_of_mem he, Or.inr ⟨rfl, hc⟩⟩

/-- **What a plan fires** is asked for, of the device scope, of an experiment that takes the
requester in, or remembered by the session. -/
theorem EvaluationHook.mem_firings_plan {f : Firing}
    (hf : f ∈ (k.plan device s r d session draws).selected.map Selected.firing) :
    f.selection = .byOverride ∨ ∃ e, d.find? f.experiment = some e ∧
      (e.scope = .device ∨ e.AdmitsTo r.requester ∨
        k = .afterConfig ∧ f.selection = .replay ∧ e.RememberedIn s session f.condset) := by
  cases k with
  | afterConfig =>
    rcases afterConfigLaw_plan.firing_cases hf with ho | ⟨e, he, hadmits | hreplay⟩
    · exact Or.inl ho
    · exact Or.inr ⟨e, he, Or.inr (Or.inl hadmits)⟩
    · exact Or.inr ⟨e, he, Or.inr (Or.inr ⟨rfl, hreplay⟩)⟩
  | beforeSession =>
    cases device with
    | none => cases hf
    | some device =>
      rw [plan, Plan.beforeSession, List.map_append] at hf
      rcases List.mem_append.mp hf with hf | hf
      · obtain ⟨e, -, c, -, rfl⟩ :=
          (firingsOf_deviceOverrides (r := r) (d := d)).exists_of_mem hf
        exact Or.inl rfl
      · obtain ⟨e, he, -, hscope, c, -, rfl⟩ := (firingsOf_hashed device).exists_of_mem hf
        exact Or.inr ⟨e, Keyed.find?_of_mem he, Or.inl hscope⟩
  | afterRequireLogin =>
    obtain ⟨chosen, hchosen, rfl⟩ := List.mem_map.mp hf
    obtain ⟨he, -, hadmits, -⟩ := mem_undecided_iff.mp (entry_mem_drawnFrom chosen hchosen)
    exact Or.inr ⟨chosen.entry, Keyed.find?_of_mem he, Or.inr (Or.inl hadmits)⟩

theorem adminDisabled_of_gate (hg : EvaluationHook.afterConfig.gate s r = .proceed device) :
    r.adminDisabled s = false := by
  cases h : r.adminDisabled s with
  | false => rfl
  | true => simp [EvaluationHook.gate, h] at hg

end

/-- An experiment that takes an administrator in is open to administrators. -/
theorem Entry.AdmitsTo.takesAdmins {e : Entry} {q : Requester} (h : e.AdmitsTo q)
    (hadmin : q.isAdmin = true) : e.TakesAdmins := by
  rcases h with h | h
  · exact Or.inr h
  · rw [hadmin] at h
    cases h

/-! ## What a call fires -/

namespace Visit
variable {σ : Type} (source : Source σ)

/-- A call fires an experiment that leaves administrators out, though nobody asked for it. -/
def Breaches (w : Visit σ) (c : HookCall) (f : Firing) : Prop :=
  f ∈ (w.call source c).1.firings ∧ f.selection ≠ .byOverride ∧
    ∀ d e, (w.read source c).1 = .ok d → d.find? f.experiment = some e → ¬e.TakesAdmins

/-- The session that a call finds holds a condset `y` of an enabled session experiment `x` that
leaves administrators out, and the call goes to replay it. -/
def ReplaysClosed (w : Visit σ) (c : HookCall) (x y : String) : Prop :=
  c.hook? = some .afterConfig ∧ w.request.adminDisabled w.settings = false ∧
    ∃ d e, (w.read source c).1 = .ok d ∧ d.find? x = some e ∧ ¬e.TakesAdmins ∧
      e.RememberedIn w.settings w.host.session y

/-- In a run, a call after login wrote `y` to the session for the experiment `x`, which then
took the requester in. -/
def Decided (v : Visit σ) (steps : List (VisitStep σ)) (x y : String) : Prop :=
  ∃ before login after d e, steps = before ++ .call login :: after ∧
    login.hook? = some .afterRequireLogin ∧
    ((v.run source before).read source login).1 = .ok d ∧ d.find? x = some e ∧
    e.AdmitsTo (v.run source before).request.requester ∧
    ((v.run source before).call source login).2.host.session.get? (v.settings.sessionKey x) =
      some y

variable {source} {w : Visit σ} {c : HookCall}

theorem ReplaysClosed.breaches {x y : String} (h : w.ReplaysClosed source c x y) :
    w.Breaches source c ⟨x, y, .replay⟩ := by
  obtain ⟨hc, hon, d, e, hread, he, hclosed, hmemo⟩ := h
  obtain ⟨hmem, rfl⟩ := Keyed.find?_eq_some_iff.mp he
  obtain ⟨report, ha, -, law⟩ := HookCall.afterConfigLaw_run hc hon d w.host w.draws
  refine ⟨?_, by simp, ?_⟩
  · rw [answer_call, result, hread, ha]
    exact law.mem_replay_iff.mpr ⟨e, hmem, rfl, hmemo⟩
  · intro d' e' hread' he'
    obtain rfl := Except.ok.inj (hread.symm.trans hread')
    obtain rfl := Option.some.inj (he.symm.trans he')
    exact hclosed

/-- **What a call fires for an administrator**: it breaches immunity by replaying, and in no
other way. -/
theorem breaches_iff {f : Firing} (hadmin : w.request.requester.isAdmin = true) :
    w.Breaches source c f ↔
      ∃ x y, w.ReplaysClosed source c x y ∧ f = ⟨x, y, .replay⟩ := by
  constructor
  · rintro ⟨hf, hasked, hclosed⟩
    rw [answer_call, result] at hf
    rcases c.run_cases w.settings w.request (w.read source c).1 w.host w.draws with
      ⟨k, device, d, hc, hg, hread, -⟩ | ⟨-, hidle⟩
    · rw [hread] at hf
      obtain ⟨report, ha, -, hfirings⟩ := HookCall.run_firings d w.host w.draws hc hg
      rw [ha, HookAnswer.firings, hfirings] at hf
      rcases EvaluationHook.mem_firings_plan hf with ho | ⟨e, he, hscope | hadmits | hreplay⟩
      · exact absurd ho hasked
      · exact absurd (Or.inl hscope) (hclosed d e hread he)
      · exact absurd (hadmits.takesAdmins hadmin) (hclosed d e hread he)
      · obtain ⟨rfl, hselection, hmemo⟩ := hreplay
        refine ⟨f.experiment, f.condset, ⟨hc, adminDisabled_of_gate hg, d, e, hread, he,
          hclosed d e hread he, hmemo⟩, ?_⟩
        rw [← hselection]
    · rw [hidle.firings] at hf
      cases hf
  · rintro ⟨x, y, h, rfl⟩
    exact h.breaches

/-! ## Where it was decided -/

/-- **What a session holds after a run** it held before, or it was decided in the run. -/
theorem decided_of_get? {v : Visit σ} {steps : List (VisitStep σ)} {x y : String}
    (h : (v.run source steps).host.session.get? (v.settings.sessionKey x) = some y) :
    v.host.session.get? (v.settings.sessionKey x) = some y ∨ v.Decided source steps x y := by
  rw [Dictionary.get?_eq_some_iff, session_run, List.mem_append] at h
  rcases h with h | h
  · exact Or.inl (Dictionary.get?_eq_some_iff.mpr h)
  · obtain ⟨decision, hdecision, hrecord⟩ := List.mem_map.mp h
    obtain ⟨⟨u, login⟩, hcall, hmem⟩ := List.mem_flatMap.mp hdecision
    obtain ⟨before, after, rfl, rfl⟩ := exists_prefix_of_mem_calls hcall
    have hdec := login.decides_run (v.run source before).settings
      (v.run source before).request ((v.run source before).read source login).1
      (v.run source before).host (v.run source before).draws
    have hlogin : login.hook? = some .afterRequireLogin := by
      by_contra hne
      have hnone : ((v.run source before).result source login).decisions
          (v.run source before).settings = [] := hdec.writer hne
      rw [hnone] at hmem
      cases hmem
    obtain ⟨d, e, hread, he, -, -, hadmits, hkey, -⟩ := hdec.source decision hmem
    -- the key says which experiment was decided
    have hname : e.shortname = x := by
      refine v.settings.sessionKey_injective ?_
      rw [settings_run] at hkey
      exact hkey.symm.trans (Prod.mk.inj hrecord).1
    refine Or.inr ⟨before, login, after, d, e, rfl, hlogin, hread,
      Keyed.find?_eq_some_iff.mpr ⟨he, hname⟩, hadmits, ?_⟩
    rw [Dictionary.get?_eq_some_iff, host_call, result, hdec.records, ← hrecord]
    exact List.mem_append_right _ (List.mem_map_of_mem hmem)

end Visit

/-- **Administrators are spared except by replay.**  After any run, a call of an administrator
fires only device experiments, experiments that are open to administrators, and what was asked
for, exactly if it replays no experiment that is closed to administrators.  What it replays so
was in the session before the run, or was decided in the run at the login of a requester whom
the experiment took in at that time. -/
theorem admin_immunity_law {σ : Type} (source : Source σ) (v : Visit σ)
    (steps : List (VisitStep σ)) (c : HookCall)
    (hadmin : (v.run source steps).request.requester.isAdmin = true) :
    ((∀ f ∈ ((v.run source steps).call source c).1.firings, f.selection ≠ .byOverride →
        ∃ d e, ((v.run source steps).read source c).1 = .ok d ∧ d.find? f.experiment = some e ∧
          e.TakesAdmins) ↔
      ∀ x y, ¬(v.run source steps).ReplaysClosed source c x y) ∧
    ∀ x y, (v.run source steps).ReplaysClosed source c x y →
      v.host.session.get? (v.settings.sessionKey x) = some y ∨ v.Decided source steps x y := by
  refine ⟨⟨fun hspared x y h => ?_, fun hnone f hf hasked => ?_⟩, ?_⟩
  · obtain ⟨hf, hasked, hclosed⟩ := h.breaches
    obtain ⟨d, e, hread, he, htakes⟩ := hspared _ hf hasked
    exact hclosed d e hread he htakes
  · by_contra hno
    obtain ⟨x, y, h, -⟩ := (Visit.breaches_iff hadmin).mp
      ⟨hf, hasked, fun d e hread he htakes => hno ⟨d, e, hread, he, htakes⟩⟩
    exact hnone x y h
  · rintro x y ⟨-, -, d, e, -, he, -, -, -, hmemo, -⟩
    obtain ⟨-, rfl⟩ := Keyed.find?_eq_some_iff.mp he
    rw [Visit.settings_run] at hmemo
    exact Visit.decided_of_get? hmemo

/-- An administrator visits a site with a coin that is closed to administrators, and a banner of
every request that is open to them. -/
def Visit.withBanner : Visit (Except StoreError Dataset) where
  source := .ok (.ofList [Entry.coin .session,
    ⟨⟨⟨2⟩, "Banner", "banner", .request, true, true, 0⟩, (Entry.coin .request).conditions⟩])
  settings := .standard
  request := .browse true
  host := default
  draws := .constant 1
  events := []

/-- The coin is not flipped at the login of the administrator, so that the banner alone fires. -/
theorem banner_spares_admin :
    let w := Visit.withBanner.run .fixed [.call (.evaluate .afterRequireLogin)]
    w.request.requester.isAdmin = true ∧
      (w.call .fixed (.evaluate .afterConfig)).1.firings = [⟨"banner", "heads", .draw 1⟩] ∧
      ∀ f ∈ (w.call .fixed (.evaluate .afterConfig)).1.firings, f.selection ≠ .byOverride →
        ∃ d e, (w.read .fixed (.evaluate .afterConfig)).1 = .ok d ∧
          d.find? f.experiment = some e ∧ e.TakesAdmins := by
  refine ⟨rfl, by decide, (admin_immunity_law .fixed .withBanner _ _ rfl).1.mpr ?_⟩
  rintro x y ⟨-, -, d, e, -, -, -, -, -, hmemo, -⟩
  cases hmemo

/-- **A user who becomes an administrator is not spared**: what was decided before is replayed,
although the experiment is closed to administrators. -/
theorem exists_admin_not_spared :
    ¬∀ (v : Visit (Except StoreError Dataset)) (steps : List (VisitStep _)) (c : HookCall),
      v.host.session = .empty → (v.run .fixed steps).request.requester.isAdmin = true →
        ∀ f ∈ ((v.run .fixed steps).call .fixed c).1.firings, f.selection ≠ .byOverride →
          ∃ d e, ((v.run .fixed steps).read .fixed c).1 = .ok d ∧
            d.find? f.experiment = some e ∧ e.TakesAdmins := by
  intro hall
  obtain ⟨d, e, hread, he, htakes⟩ := hall (.ofCoin .session (.browse false))
    [.call (.evaluate .afterRequireLogin), .begin (.browse true) .empty]
    (.evaluate .afterConfig) rfl rfl ⟨"coin", "heads", .replay⟩ (by decide) (by decide)
  obtain rfl : .ofList [Entry.coin .session] = d := Except.ok.inj hread
  obtain rfl : Entry.coin .session = e := Option.some.inj he
  rcases htakes with h | h <;> cases h

end SplitTest

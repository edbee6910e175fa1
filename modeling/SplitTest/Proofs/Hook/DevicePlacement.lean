import SplitTest.Proofs.Hook.OneVariant

/-!
# A device keeps its place

Before the session a device experiment fires by the bucket of the device, which is computed
from its address and user agent.  The walk over the conditions reads of each its name, its
weight and its allow-list, and nothing else of the dataset, the request or the session
(`Condition.placed`, `Entry.BucketFallsOn.of_places`).

So a device that comes back is placed as before, whoever uses it, as long as the experiment
has the same places, and conditions that are put behind the others take no device from them
(`device_placement_law`).
-/

namespace SplitTest

open SplitTest.Store

/-! ## Places -/

/-- What places devices in a condition: its name, its weight and the addresses exempt from
it. -/
def Condition.placed (c : Condition) : String × Nat × Net.AllowList :=
  (c.condset, c.weight, c.allowList)

/-- The places of an experiment, in stored order. -/
def Entry.places (e : Entry) : List (String × Nat × Net.AllowList) :=
  e.conditions.items.map Condition.placed

section
variable {address : Option String} {e e' : Entry} {n : Nat} {c : Condition}

/-- The weight of the conditions from which an address is not exempt, by their places. -/
theorem weightOf_allowed (cs : List Condition) :
    weightOf (fun c => !c.allowList.containsClient address) cs =
      (((cs.map Condition.placed).filter fun p => !p.2.2.containsClient address).map
        fun p => p.2.1).sum := by
  rw [weightOf, List.filter_map, List.map_map]
  rfl

/-- **The walk over the conditions is stable under what follows**: a bucket that falls on a
condition still falls on it, wherever the places of the experiment are the first of those of
another. -/
theorem Entry.BucketFallsOn.of_places (h : e.BucketFallsOn address n c)
    (hplaces : e.places <+: e'.places) :
    ∃ c', e'.BucketFallsOn address n c' ∧ c'.condset = c.condset := by
  obtain ⟨before, after, hitems, hexempt, hstart, hstop⟩ := h
  obtain ⟨more, hmore⟩ := hplaces
  -- the conditions of the other experiment split where those of this one do
  rw [places, hitems, List.map_append, List.map_cons, List.append_assoc, List.cons_append]
    at hmore
  obtain ⟨before', rest, hitems', hbefore, hrest⟩ := List.map_eq_append_iff.mp hmore.symm
  obtain ⟨c', after', rfl, hc, -⟩ := List.map_eq_cons_iff.mp hrest
  obtain ⟨hcondset, hweight, hallow⟩ : c'.condset = c.condset ∧ c'.weight = c.weight ∧
      c'.allowList = c.allowList := by
    simpa [Condition.placed] using hc
  have hsame : weightOf (fun x => !x.allowList.containsClient address) before' =
      weightOf (fun x => !x.allowList.containsClient address) before := by
    rw [weightOf_allowed, weightOf_allowed, hbefore]
  refine ⟨c', ⟨before', after', hitems', ?_, ?_, ?_⟩, hcondset⟩
  · rw [hallow]
    exact hexempt
  · rw [hsame]
    exact hstart
  · rw [hsame, hweight]
    exact hstop

/-- The firing of a device experiment is that of another record of it with its name, its offset
and its places. -/
theorem Entry.HashFires.of_places {device : Device.Fingerprint} {f : Firing}
    (h : e.HashFires device address f) (hen : e'.enabled = true) (hscope : e'.scope = .device)
    (hname : e'.shortname = e.shortname)
    (hoffset : e'.experiment.numericOffset = e.experiment.numericOffset)
    (hplaces : e.places <+: e'.places) : e'.HashFires device address f := by
  obtain ⟨-, -, c, hc, rfl⟩ := h
  obtain ⟨c', hc', hcondset⟩ := hc.of_places hplaces
  rw [← hoffset] at hc'
  exact ⟨hen, hscope, c', hc', by rw [hcondset, hname, hoffset]⟩

end

/-! ## Calls -/

/-- A call answers a report of experiments that are not switched off, and leaves the session and
the draws. -/
structure HookResult.OnlyReports (h : Host) (draws : Draws) (report : Report)
    (result : HookResult HookAnswer) : Prop where
  /-- It answers the report. -/
  answer : result.answer = .report report
  /-- Experiments are not switched off. -/
  enabled : report.disabled = false
  /-- The session stays. -/
  session : result.host.session = h.session
  /-- Nothing is drawn. -/
  draws : result.draws = draws

section
variable {s : Settings} {r : Request} {d : Dataset}

/-- The firings by a bucket before the session: overrides are firings of another kind. -/
theorem mem_beforeSession_iff {device : Device.Fingerprint} {session : Session} {draws : Draws}
    {e : Entry} (he : e ∈ d.items) {y : String} {n : Nat} :
    ⟨e.shortname, y, .hash n⟩ ∈
        (Plan.beforeSession device r d session draws).selected.map Selected.firing ↔
      e.HashFires device r.requester.address ⟨e.shortname, y, .hash n⟩ := by
  have hoverrides : FiringsOf r.DeviceOverrideFires d.items _ := firingsOf_deviceOverrides
  have hhashed := (firingsOf_hashed (r := r) (d := d) device).mem_iff
    (f := ⟨e.shortname, y, .hash n⟩) fun _ _ _ => Entry.HashFires.unique
  rw [Plan.beforeSession, List.map_append, List.mem_append, hhashed]
  constructor
  · rintro (hf | ⟨e', he', hf⟩)
    · obtain ⟨_, -, _, -, hf⟩ := hoverrides.exists_of_mem hf
      cases (Firing.mk.inj hf).2.2
    · obtain rfl := d.eq_of_key_eq he he' (experiment_hashFires hf)
      exact hf
  · exact fun hf => Or.inr ⟨e, he, hf⟩

theorem device?_of_noDevice (hg : EvaluationHook.beforeSession.gate s r = .noDevice) :
    r.device? = none := by
  simp only [EvaluationHook.gate] at hg
  cases hdev : r.device? with
  | none => rfl
  | some device =>
    simp only [hdev] at hg
    split at hg <;> cases hg

/-- **What a call before the session does** unless it is switched off: it reports, leaves the
session and the draws, and fires each device experiment by the bucket of the device. -/
theorem HookCall.run_beforeSession {c : HookCall} (d : Dataset) (h : Host) (draws : Draws)
    (hc : c.hook? = some .beforeSession)
    (hon : EvaluationHook.beforeSession.gate s r ≠ .switchedOff) :
    ∃ report, (c.run s r (.ok d) h draws).OnlyReports h draws report ∧
      ∀ e ∈ d.items, ∀ y n, ⟨e.shortname, y, .hash n⟩ ∈ report.firings ↔
        ∃ device, r.device? = some device ∧
          e.HashFires device r.requester.address ⟨e.shortname, y, .hash n⟩ := by
  cases hg : EvaluationHook.beforeSession.gate s r with
  | switchedOff => exact absurd hg hon
  | noDevice =>
    rw [run_stopped hc (by simp [hg]), hg]
    refine ⟨_, ⟨rfl, rfl, rfl, rfl⟩, fun e _ y n => iff_of_false (by rintro ⟨⟩) ?_⟩
    rintro ⟨device, hdev, -⟩
    rw [device?_of_noDevice hg] at hdev
    cases hdev
  | proceed device =>
    obtain ⟨f, rfl, hdev⟩ := device_of_gate hg
    obtain ⟨report, ha, hdisabled, hfirings⟩ := run_firings d h draws hc hg
    refine ⟨report, ⟨ha, hdisabled, ?_, ?_⟩, fun e he y n => ?_⟩
    · rw [run_eq_perform hc hg]
      simp only [EvaluationHook.session_perform]
      rfl
    · rw [run_eq_perform hc hg]
      rfl
    · rw [hfirings, EvaluationHook.plan, mem_beforeSession_iff he, hdev]
      simp

end

/-- **Device placement is stable.**  Of two calls before the session, neither of them switched
off, with the same address and user agent, on datasets in which an enabled device experiment has
the same offset and the places of the first begin those of the second: what the bucket of the
device fires in the first it fires in the second, and nothing else; if the places are the same,
the two fire the same.  Neither call draws or touches the session. -/
theorem device_placement_law (c c' : HookCall) (s s' : Settings) (r r' : Request) (d d' : Dataset)
    (e e' : Entry) (h h' : Host) (draws draws' : Draws)
    (hc : c.hook? = some .beforeSession) (hc' : c'.hook? = some .beforeSession)
    (hon : EvaluationHook.beforeSession.gate s r ≠ .switchedOff)
    (hon' : EvaluationHook.beforeSession.gate s' r' ≠ .switchedOff)
    (haddress : r'.requester.address = r.requester.address)
    (hagent : r'.requester.userAgent = r.requester.userAgent)
    (he : e ∈ d.activeIn .device) (he' : e' ∈ d'.activeIn .device)
    (hname : e'.shortname = e.shortname)
    (hoffset : e'.experiment.numericOffset = e.experiment.numericOffset)
    (hplaces : e.places <+: e'.places) :
    ∃ report report', (c.run s r (.ok d) h draws).OnlyReports h draws report ∧
      (c'.run s' r' (.ok d') h' draws').OnlyReports h' draws' report' ∧
      (∀ y n, ⟨e.shortname, y, .hash n⟩ ∈ report.firings →
        ∀ z m, ⟨e.shortname, z, .hash m⟩ ∈ report'.firings ↔ z = y ∧ m = n) ∧
      (e'.places = e.places → ∀ y n,
        ⟨e.shortname, y, .hash n⟩ ∈ report'.firings ↔
          ⟨e.shortname, y, .hash n⟩ ∈ report.firings) := by
  obtain ⟨hmem, hen, hscope⟩ := Dataset.mem_activeIn_iff.mp he
  obtain ⟨hmem', hen', hscope'⟩ := Dataset.mem_activeIn_iff.mp he'
  obtain ⟨report, hreport, hfires⟩ := HookCall.run_beforeSession d h draws hc hon
  obtain ⟨report', hreport', hfires'⟩ := HookCall.run_beforeSession d' h' draws' hc' hon'
  have hdevice : r'.device? = r.device? := by
    simp only [Request.device?, haddress, hagent]
  specialize hfires e hmem
  specialize hfires' e' hmem'
  rw [hname, hdevice, haddress] at hfires'
  have hkept {y : String} {n : Nat} (hf : ⟨e.shortname, y, .hash n⟩ ∈ report.firings) :
      ⟨e.shortname, y, .hash n⟩ ∈ report'.firings := by
    obtain ⟨device, hdev, hf⟩ := (hfires y n).mp hf
    exact (hfires' y n).mpr ⟨device, hdev, hf.of_places hen' hscope' hname hoffset hplaces⟩
  refine ⟨report, report', hreport, hreport', fun y n hf z m => ⟨fun hg => ?_, ?_⟩,
    fun hsame y n => ⟨fun hf => ?_, hkept⟩⟩
  · obtain ⟨device, hdev, hg⟩ := (hfires' z m).mp hg
    obtain ⟨device', hdev', hf⟩ := (hfires' y n).mp (hkept hf)
    obtain rfl := Option.some.inj (hdev.symm.trans hdev')
    obtain ⟨-, rfl, hm⟩ := Firing.mk.inj (hg.unique hf)
    exact ⟨rfl, Selection.hash.inj hm⟩
  · rintro ⟨rfl, rfl⟩
    exact hkept hf
  · obtain ⟨device, hdev, hf⟩ := (hfires' y n).mp hf
    have hplaces' : e'.places <+: e.places := hsame ▸ List.prefix_refl _
    exact (hfires y n).mpr
      ⟨device, hdev, hf.of_places hen hscope hname.symm hoffset.symm hplaces'⟩

/-- A coin for devices, with an edge behind its sides. -/
def Entry.edged : Entry where
  experiment := (Entry.coin .device).experiment
  conditions := .ofList ((Entry.coin .device).conditions.items ++
    [⟨⟨3⟩, ⟨1⟩, "edge", .parse "", ⟨[]⟩, 5, .empty⟩])

/-- A device that saw heads still sees heads and nothing else, in a shell and by a guest, and when
the coin has an edge. -/
theorem edged_keeps_device :
    let first := HookCall.run (.evaluate .beforeSession) .standard (.browse true)
      (.ok (.ofList [Entry.coin .device])) default (.constant 1)
    let second := HookCall.run (.evaluateStrictly .beforeSession) .standard (.flip "tails")
      (.ok (.ofList [Entry.edged])) default (.constant 100)
    first.answer = .report ⟨false, [⟨"coin", "heads", .hash 7⟩], .empty⟩ ∧
      ∃ report, second.OnlyReports default (.constant 100) report ∧
        ∀ y n, ⟨"coin", y, .hash n⟩ ∈ report.firings ↔ y = "heads" ∧ n = 7 := by
  intro first second
  have hfirst : first.answer = .report ⟨false, [⟨"coin", "heads", .hash 7⟩], .empty⟩ := by
    decide +kernel
  obtain ⟨before, report, hbefore, hreport, hkept, -⟩ :=
    device_placement_law (.evaluate .beforeSession) (.evaluateStrictly .beforeSession) .standard
      .standard (.browse true) (.flip "tails") (.ofList [Entry.coin .device])
      (.ofList [Entry.edged]) (Entry.coin .device) Entry.edged default default (.constant 1)
      (.constant 100) rfl rfl (by decide) (by decide) rfl rfl (by decide) (by decide) rfl rfl
      ⟨[("edge", 5, .parse "")], rfl⟩
  obtain rfl := HookAnswer.report.inj (hfirst.symm.trans hbefore.answer)
  exact ⟨hfirst, report, hreport, hkept "heads" 7 List.mem_cons_self⟩

end SplitTest

import SplitTest.Proofs.Hook.AfterConfig

/-!
# One variant per experiment

A report names an experiment more than once exactly when the request overrides an
experiment that is also chosen in another way in the same call (`Contested`): a request
experiment whose draw falls on a condition, a session experiment that the session
remembers, or a device experiment whose bucket falls on a condition.  An after-config
experiment is never contested, since its override takes it out of the draws, and after
login nothing can be overridden.
-/

namespace SplitTest

open SplitTest.Store

/-- An experiment that a request overrides is chosen in another way in the same call. -/
def Contested (k : EvaluationHook) (s : Settings) (r : Request) (d : Dataset)
    (session : Session) (draws : Draws) (e : Entry) : Prop :=
  match k with
  | .afterConfig =>
    (∃ f, r.OverrideFires s e f) ∧
      ((∃ drawing place f, DrawOrder s r d drawing ∧ (e, place) ∈ drawing.zipIdx ∧
          draws.Fires r.requester (e, place) f) ∨
        ∃ f, e.ReplayFires s session f)
  | .beforeSession =>
    (∃ f, r.DeviceOverrideFires e f) ∧
      ∃ device f, r.device? = some device ∧ e.HashFires device r.requester.address f
  | .afterRequireLogin => False

section
variable {s : Settings} {r : Request} {d : Dataset} {session : Session} {draws : Draws}

theorem experiment_overrideFires {e : Entry} {f : Firing} (h : r.OverrideFires s e f) :
    f.experiment = e.shortname := by
  obtain ⟨c, -, rfl⟩ := h
  rfl

theorem experiment_deviceOverrideFires {e : Entry} {f : Firing}
    (h : r.DeviceOverrideFires e f) : f.experiment = e.shortname := by
  obtain ⟨c, -, rfl⟩ := h
  rfl

theorem experiment_drawFires {requester : Requester} {roll : Entry × Nat} {f : Firing}
    (h : draws.Fires requester roll f) : f.experiment = roll.1.shortname := by
  obtain ⟨c, -, rfl⟩ := h
  rfl

theorem experiment_hashFires {device : Device.Fingerprint} {address : Option String}
    {e : Entry} {f : Firing} (h : e.HashFires device address f) :
    f.experiment = e.shortname := by
  obtain ⟨-, -, c, -, rfl⟩ := h
  rfl

theorem experiment_replayFires {e : Entry} {f : Firing} (h : e.ReplayFires s session f) :
    f.experiment = e.shortname := by
  obtain ⟨c, -, rfl⟩ := h
  rfl

/-- Firings of experiments of a dataset name each of them once. -/
theorem FiringsOf.nodup {Fires : Entry → Firing → Prop} {fs : List Firing}
    (h : FiringsOf Fires d.items fs) (hname : ∀ e f, Fires e f → f.experiment = e.shortname) :
    (fs.map Firing.experiment).Nodup :=
  d.distinct.sublist (h.sublist_map hname)

/-- Two groups of firings name an experiment in common when it fires in both. -/
theorem FiringsOf.disjoint_iff {α : Type} {Fires : Entry → Firing → Prop}
    {Fires' : α → Firing → Prop} {as : List α} {fs fs' : List Firing}
    (entry : α → Entry) (h : FiringsOf Fires d.items fs) (h' : FiringsOf Fires' as fs')
    (hname : ∀ e f, Fires e f → f.experiment = e.shortname)
    (hname' : ∀ a f, Fires' a f → f.experiment = (entry a).shortname)
    (hmem : ∀ a ∈ as, entry a ∈ d.items) :
    (fs.map Firing.experiment).Disjoint (fs'.map Firing.experiment) ↔
      ∀ e ∈ d.items, ¬((∃ f, Fires e f) ∧ ∃ a ∈ as, entry a = e ∧ ∃ f, Fires' a f) := by
  constructor
  · rintro hdis e he ⟨hf, a, ha, rfl, hf'⟩
    exact hdis ((h.mem_map_iff hname).mpr ⟨entry a, he, rfl, hf⟩)
      ((h'.mem_map_iff hname').mpr ⟨a, ha, rfl, hf'⟩)
  · intro hnone x hx hx'
    obtain ⟨e, he, rfl, hf⟩ := (h.mem_map_iff hname).mp hx
    obtain ⟨a, ha, hae, hf'⟩ := (h'.mem_map_iff hname').mp hx'
    exact hnone e he ⟨hf, a, ha, d.eq_of_key_eq (hmem a ha) he hae, hf'⟩

/-! ## Hook by hook -/

theorem drawnNames_nodup {es : List Entry} {fs : List Firing} (hes : es.Sublist d.items)
    (h : FiringsOf (draws.Fires r.requester) es.zipIdx fs) :
    (fs.map Firing.experiment).Nodup := by
  have hsub := h.sublist_map (fun _ _ hf => experiment_drawFires hf)
  have hnames : es.zipIdx.map (fun roll => roll.1.shortname) = es.map Entry.shortname := by
    rw [show (fun roll : Entry × Nat => roll.1.shortname) = Entry.shortname ∘ Prod.fst from rfl,
      ← List.map_map, List.zipIdx_map_fst]
  rw [hnames] at hsub
  exact d.distinct.sublist (hsub.trans (hes.map Entry.shortname))

theorem AfterConfigLaw.nodup_iff {fs : List Firing} {left : Draws}
    (law : AfterConfigLaw s r d session draws fs left) :
    (fs.map Firing.experiment).Nodup ↔
      ∀ e ∈ d.items, ¬Contested .afterConfig s r d session draws e := by
  obtain ⟨overrides, drawing, drawn, replays, rfl, ho, horder, hd, -, hr⟩ := law
  have hmem : ∀ roll ∈ drawing.zipIdx, roll.1 ∈ d.items := fun roll hroll =>
    horder.1.subset (List.fst_mem_of_mem_zipIdx hroll)
  have hod := FiringsOf.disjoint_iff Prod.fst ho hd (fun _ _ => experiment_overrideFires)
    (fun _ _ => experiment_drawFires) hmem
  have hor := FiringsOf.disjoint_iff id ho hr (fun _ _ => experiment_overrideFires)
    (fun _ _ => experiment_replayFires) fun _ he => he
  -- request and after-config experiments draw, session experiments replay
  have hdr : (drawn.map Firing.experiment).Disjoint (replays.map Firing.experiment) := by
    intro x hx hx'
    obtain ⟨roll, hroll, rfl, -⟩ := (hd.mem_map_iff fun _ _ => experiment_drawFires).mp hx
    obtain ⟨e, he, hname, f, c, ⟨-, hscope, -⟩, -⟩ :=
      (hr.mem_map_iff fun _ _ => experiment_replayFires).mp hx'
    obtain rfl : e = roll.1 := d.eq_of_key_eq he (hmem roll hroll) hname
    obtain ⟨-, hs | ⟨hs, -⟩, -⟩ :=
      ((horder.2 roll.1).mp (List.fst_mem_of_mem_zipIdx hroll)).2 <;>
      rw [hs] at hscope <;> cases hscope
  have hon := ho.nodup fun _ _ => experiment_overrideFires
  have hdn := drawnNames_nodup horder.1 hd
  have hrn := hr.nodup fun _ _ => experiment_replayFires
  rw [List.map_append, List.map_append, List.nodup_append', List.nodup_append',
    List.disjoint_append_left, hod, hor]
  constructor
  · rintro ⟨⟨-, -, hnd⟩, -, hnr, -⟩ e he ⟨hasks, ⟨drawing', place, f, horder', hroll, hf⟩ | hf⟩
    · obtain rfl := horder.unique horder'
      exact hnd e he ⟨hasks, (e, place), hroll, rfl, f, hf⟩
    · exact hnr e he ⟨hasks, e, he, rfl, hf⟩
  · intro hnone
    refine ⟨⟨hon, hdn, ?_⟩, hrn, ?_, hdr⟩
    · rintro e he ⟨hasks, roll, hroll, rfl, f, hf⟩
      exact hnone roll.1 he ⟨hasks, Or.inl ⟨drawing, roll.2, f, horder, hroll, hf⟩⟩
    · rintro e he ⟨hasks, e', -, rfl, hf⟩
      exact hnone e' he ⟨hasks, Or.inr hf⟩

theorem device_of_gate {device : Option Device.Fingerprint}
    (hg : EvaluationHook.beforeSession.gate s r = .proceed device) :
    ∃ f, device = some f ∧ r.device? = some f := by
  simp only [EvaluationHook.gate] at hg
  cases hdev : r.device? with
  | none => simp [hdev] at hg
  | some f =>
    simp only [hdev] at hg
    split at hg
    · cases hg
    · exact ⟨f, (Gate.proceed.inj hg).symm, rfl⟩

/-- Two groups only: what is asked for, and the buckets. -/
theorem nodup_beforeSession_iff {device : Device.Fingerprint} (hdev : r.device? = some device) :
    (((Plan.beforeSession device r d session draws).selected.map Selected.firing).map
        Firing.experiment).Nodup ↔
      ∀ e ∈ d.items, ¬Contested .beforeSession s r d session draws e := by
  have ho := firingsOf_deviceOverrides (r := r) (d := d)
  have hh := firingsOf_hashed (r := r) (d := d) device
  have hoh := FiringsOf.disjoint_iff id ho hh (fun _ _ => experiment_deviceOverrideFires)
    (fun _ _ => experiment_hashFires) fun _ he => he
  rw [Plan.beforeSession, List.map_append, List.map_append, List.nodup_append', hoh]
  constructor
  · rintro ⟨-, -, hnone⟩ e he ⟨hasks, device', f, hdev', hf⟩
    obtain rfl := Option.some.inj (hdev.symm.trans hdev')
    exact hnone e he ⟨hasks, e, he, rfl, f, hf⟩
  · intro hnone
    refine ⟨ho.nodup fun _ _ => experiment_deviceOverrideFires,
      hh.nodup fun _ _ => experiment_hashFires, ?_⟩
    rintro e he ⟨hasks, e', -, rfl, f, hf⟩
    exact hnone e' he ⟨hasks, device, f, hdev, hf⟩

theorem nodup_afterRequireLogin :
    (((Plan.afterRequireLogin s r d session draws).selected.map Selected.firing).map
        Firing.experiment).Nodup :=
  drawnNames_nodup undecided_sublist <| firingsOf_drawnFrom fun e he => by
    rw [(mem_undecided_iff.mp he).2.1.2]
    simp

end

/-- A report that names each experiment once tells every condset that fired. -/
theorem Report.fired?_of_nodup {report : Report}
    (h : (report.firings.map Firing.experiment).Nodup) :
    ∀ f ∈ report.firings, report.fired? f.experiment = some f.condset := by
  intro f hf
  have hfind := Keyed.find?_of_mem (s := (⟨report.firings, h⟩ : Keyed Firing.experiment)) hf
  exact congrArg (Option.map Firing.condset) hfind

/-- **A report names every experiment once exactly when none is contested**, and then it
tells every condset that fired.  A call that idles contests nothing. -/
theorem report_names_once_iff (c : HookCall) (k : EvaluationHook) (s : Settings) (r : Request)
    (read : Except StoreError Dataset) (h : Host) (draws : Draws) (report : Report)
    (hc : c.hook? = some k) (ha : (c.run s r read h draws).answer = .report report) :
    ((report.firings.map Firing.experiment).Nodup ∧
        ∀ f ∈ report.firings, report.fired? f.experiment = some f.condset) ↔
      ∀ device d, k.gate s r = .proceed device → read = .ok d →
        ∀ e ∈ d.items, ¬Contested k s r d h.session draws e := by
  rw [and_iff_left_of_imp Report.fired?_of_nodup]
  rcases c.run_cases s r read h draws with ⟨k', device, d, hc', hg, rfl, -⟩ | ⟨hstop, hidle⟩
  · obtain rfl := Option.some.inj (hc'.symm.trans hc)
    obtain ⟨report', ha', -, hf⟩ := HookCall.run_firings d h draws hc hg
    obtain rfl : report' = report := HookAnswer.report.inj (ha'.symm.trans ha)
    -- the gate lets one device pass, and one dataset was read
    suffices hone : ((report'.firings.map Firing.experiment).Nodup ↔
        ∀ e ∈ d.items, ¬Contested k' s r d h.session draws e) by
      rw [hone]
      refine ⟨?_, fun hall => hall device d hg rfl⟩
      rintro hnone _ _ - ⟨⟩
      exact hnone
    rw [hf]
    cases k' with
    | afterConfig => exact afterConfigLaw_plan.nodup_iff
    | beforeSession =>
      obtain ⟨f, rfl, hdev⟩ := device_of_gate hg
      exact nodup_beforeSession_iff hdev
    | afterRequireLogin =>
      exact iff_of_true nodup_afterRequireLogin fun e _ hcontested => hcontested
  · refine iff_of_true (by rw [hidle.silent report ha]; exact List.nodup_nil) ?_
    exact fun device d hg hd => absurd hd (hstop k device d hc hg)

/-- An overridden request experiment is contested by its own draw. -/
theorem coin_contested :
    ∃ e ∈ (Keyed.ofList [Entry.coin .request] : Dataset).items,
      Contested .afterConfig .standard (.flip "tails") (.ofList [Entry.coin .request])
        (default : Host).session (.constant 1) e := by
  have hiff := report_names_once_iff (.evaluate .afterConfig) .afterConfig .standard
    (.flip "tails") (.ok (.ofList [Entry.coin .request])) default (.constant 1)
    ⟨false, [⟨"coin", "tails", .byOverride⟩, ⟨"coin", "heads", .draw 1⟩], .empty⟩ rfl rfl
  by_contra hnone
  refine absurd (hiff.mpr ?_).1 (by decide)
  rintro _ _ - ⟨⟩ e he hcontested
  exact hnone ⟨e, he, hcontested⟩

/-- **A call can report two variants of one experiment**: the one that was asked for, and
the one that was drawn all the same. -/
theorem exists_report_naming_twice :
    ¬∀ (c : HookCall) (k : EvaluationHook) (s : Settings) (r : Request)
      (read : Except StoreError Dataset) (h : Host) (draws : Draws) (report : Report),
      c.hook? = some k → (c.run s r read h draws).answer = .report report →
        (report.firings.map Firing.experiment).Nodup := by
  intro hall
  have hnodup := hall (.evaluate .afterConfig) .afterConfig .standard (.flip "tails")
    (.ok (.ofList [Entry.coin .request])) default (.constant 1)
    ⟨false, [⟨"coin", "tails", .byOverride⟩, ⟨"coin", "heads", .draw 1⟩], .empty⟩ rfl rfl
  exact absurd hnodup (by decide)

end SplitTest

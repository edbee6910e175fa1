import SplitTest.Proofs.Hook.Call

/-!
# The hook after the configuration was read

What fires is three groups, each in stored order: what the request asks for, what the
draws fall on, what the session remembers.  The experiments that draw are known before
any number is: the `k`-th of them takes the `k`-th number, whether or not the number falls
on a condition, and nothing else is drawn (`afterConfig_selection_law`).
-/

namespace SplitTest

/-- The firings of the hook after the configuration was read, and the draws it leaves, as
the law of selection gives them. -/
def AfterConfigLaw (s : Settings) (r : Request) (d : Dataset) (session : Session)
    (draws : Draws) (firings : List Firing) (left : Draws) : Prop :=
  ∃ overrides drawing drawn replays,
    firings = overrides ++ drawn ++ replays ∧
    FiringsOf (r.OverrideFires s) d.items overrides ∧
    DrawOrder s r d drawing ∧
    FiringsOf (draws.Fires r.requester) drawing.zipIdx drawn ∧
    left = { draws with rolls := draws.rolls + drawing.length } ∧
    FiringsOf (Entry.ReplayFires s session) d.items replays

section
variable {s : Settings} {r : Request} {d : Dataset}

/-- The shortnames that the overrides of a request take out of the draws. -/
theorem mem_overridden_iff {e : Entry} (he : e ∈ d.items) :
    e.shortname ∈ (overrides (r.askedAfterConfig s) d.overridableAfterConfig).map
        (fun x => x.entry.shortname) ↔
      ∃ c, r.AsksFor s e c := by
  constructor
  · intro h
    obtain ⟨x, hx, hxe⟩ := List.mem_map.mp h
    obtain ⟨e', he', hc'⟩ := List.mem_filterMap.mp hx
    obtain ⟨c, hc, rfl⟩ := Option.map_eq_some_iff.mp hc'
    obtain ⟨hmem, hkeep⟩ := List.mem_filter.mp he'
    -- the overridden experiment is the one, since shortnames are distinct
    obtain rfl : e' = e := d.eq_of_key_eq hmem he hxe
    exact ⟨c, Request.asksFor_iff.mpr ⟨hkeep, hc⟩⟩
  · rintro ⟨c, hc⟩
    obtain ⟨hkeep, hc⟩ := Request.asksFor_iff.mp hc
    refine List.mem_map.mpr ⟨⟨e, c, .byOverride⟩, List.mem_filterMap.mpr ⟨e, ?_, ?_⟩, rfl⟩
    · exact List.mem_filter.mpr ⟨he, hkeep⟩
    · rw [hc]; rfl

theorem drawsAfterConfig_iff {overridden : List String} {e : Entry} :
    drawsAfterConfig overridden e = true ↔
      e.scope = .request ∨ e.scope = .afterConfig ∧ e.shortname ∉ overridden := by
  cases hs : e.scope <;> simp [drawsAfterConfig, hs]

/-- The experiments that the plan lets draw are those that the law names. -/
theorem drawOrder_afterConfig :
    DrawOrder s r d (d.active.filter fun e =>
      drawsAfterConfig
          ((overrides (r.askedAfterConfig s) d.overridableAfterConfig).map
            fun x => x.entry.shortname) e
        && e.experiment.appliesTo r.requester) := by
  refine ⟨List.filter_sublist.trans List.filter_sublist, fun e => ?_⟩
  rw [Dataset.active, List.mem_filter, List.mem_filter, Bool.and_eq_true,
    drawsAfterConfig_iff, and_assoc, Entry.DrawsFor]
  refine and_congr_right fun he => and_congr_right fun _ => ?_
  have hdraws : (e.scope = .request ∨ e.scope = .afterConfig ∧ e.shortname ∉
        (overrides (r.askedAfterConfig s) d.overridableAfterConfig).map
          fun x => x.entry.shortname) ↔
      (e.scope = .request ∨ e.scope = .afterConfig ∧ ∀ c, ¬r.AsksFor s e c) := by
    rw [mem_overridden_iff he, not_exists]
  rw [hdraws]
  refine and_congr_right fun hs => Entry.appliesTo_iff ?_
  rcases hs with hs | ⟨hs, -⟩ <;> rw [hs] <;> simp

theorem DrawOrder.scope_ne_device {es : List Entry} (h : DrawOrder s r d es) :
    ∀ e ∈ es, e.scope ≠ .device := by
  intro e he
  obtain ⟨-, -, hs | ⟨hs, -⟩, -⟩ := (h.2 e).mp he <;> rw [hs] <;> simp

/-- There is one order in which experiments draw. -/
theorem DrawOrder.unique {es es' : List Entry} (h : DrawOrder s r d es)
    (h' : DrawOrder s r d es') : es = es' := by
  classical
  have key : ∀ l, DrawOrder s r d l → l = d.items.filter fun e => e.DrawsFor s r := by
    intro l hl
    have hsub : l.Sublist (d.items.filter fun e => e.DrawsFor s r) := by
      have hself : l.filter (fun e => e.DrawsFor s r) = l :=
        List.filter_eq_self.mpr fun e he => decide_eq_true ((hl.2 e).mp he).2
      exact hself ▸ hl.1.filter _
    have hperm : l.Perm (d.items.filter fun e => e.DrawsFor s r) := by
      refine (List.perm_ext_iff_of_nodup (d.nodup_items.sublist hl.1)
        (d.nodup_items.filter _)).mpr fun e => ?_
      rw [hl.2, List.mem_filter, decide_eq_true_iff]
    exact hsub.eq_of_length hperm.length_eq
  rw [key es h, key es' h']

/-- The plan of the hook, group by group. -/
theorem afterConfigLaw_plan {session : Session} {draws : Draws} :
    AfterConfigLaw s r d session draws
      ((Plan.afterConfig s r d session draws).selected.map Selected.firing)
      (Plan.afterConfig s r d session draws).draws := by
  refine ⟨_, _, _, _, ?_, firingsOf_overrides, drawOrder_afterConfig,
    firingsOf_drawnFrom drawOrder_afterConfig.scope_ne_device, rfl, firingsOf_replays⟩
  simp only [Plan.afterConfig, List.map_append]

/-- **The law determines what fires and what is drawn.** -/
theorem AfterConfigLaw.unique {session : Session} {draws left left' : Draws}
    {fs fs' : List Firing} (law : AfterConfigLaw s r d session draws fs left)
    (law' : AfterConfigLaw s r d session draws fs' left') : fs = fs' ∧ left = left' := by
  obtain ⟨overrides, drawing, drawn, replays, rfl, ho, horder, hd, rfl, hr⟩ := law
  obtain ⟨overrides', drawing', drawn', replays', rfl, ho', horder', hd', rfl, hr'⟩ := law'
  -- the places of the draws agree before the draws can
  obtain rfl := horder.unique horder'
  have hoverrides : overrides = overrides' := by
    refine ho.unique ?_ ho'
    rintro e _ _ ⟨c, hc, rfl⟩ ⟨c', hc', rfl⟩
    rw [Option.some.inj ((Request.asksFor_iff.mp hc).2.symm.trans (Request.asksFor_iff.mp hc').2)]
  have hdrawn : drawn = drawn' := by
    refine hd.unique ?_ hd'
    rintro roll _ _ ⟨c, hc, rfl⟩ ⟨c', hc', rfl⟩
    rw [hc.unique hc']
  have hreplays : replays = replays' := by
    refine hr.unique ?_ hr'
    exact fun _ _ _ => Entry.ReplayFires.unique
  rw [hoverrides, hdrawn, hreplays]
  exact ⟨rfl, rfl⟩

/-- Of what fires, the overrides are what the request asks for. -/
theorem AfterConfigLaw.overrides {session : Session} {draws left : Draws} {fs : List Firing}
    (law : AfterConfigLaw s r d session draws fs left) :
    FiringsOf (r.OverrideFires s) d.items (fs.filter fun f => f.selection = .byOverride) := by
  obtain ⟨overrides, drawing, drawn, replays, rfl, ho, -, hd, -, hr⟩ := law
  rw [List.filter_append, List.filter_append,
    ho.filter_eq (b := true) (by rintro e f ⟨c, -, rfl⟩; rfl),
    hd.filter_eq (b := false) (by rintro roll f ⟨c, -, rfl⟩; rfl),
    hr.filter_eq (b := false) (by rintro e f ⟨c, -, rfl⟩; rfl)]
  simpa using ho

/-- The replays are what the session remembers. -/
theorem AfterConfigLaw.replays {session : Session} {draws left : Draws} {fs : List Firing}
    (law : AfterConfigLaw s r d session draws fs left) :
    FiringsOf (Entry.ReplayFires s session) d.items (fs.filter fun f => f.selection = .replay) := by
  obtain ⟨overrides, drawing, drawn, replays, rfl, ho, -, hd, -, hr⟩ := law
  rw [List.filter_append, List.filter_append,
    ho.filter_eq (b := false) (by rintro e f ⟨c, -, rfl⟩; rfl),
    hd.filter_eq (b := false) (by rintro roll f ⟨c, -, rfl⟩; rfl),
    hr.filter_eq (b := true) (by rintro e f ⟨c, -, rfl⟩; rfl)]
  simpa using hr

theorem gate_afterConfig (hr : r.adminDisabled s = false) :
    EvaluationHook.afterConfig.gate s r = .proceed none := by
  simp [EvaluationHook.gate, hr]

/-- A call that is not switched off and can read the dataset obeys the law. -/
theorem HookCall.afterConfigLaw_run {c : HookCall} (hc : c.hook? = some .afterConfig)
    (hr : r.adminDisabled s = false) (d : Dataset) (h : Host) (draws : Draws) :
    ∃ report, (c.run s r (.ok d) h draws).answer = .report report ∧ report.disabled = false ∧
      AfterConfigLaw s r d h.session draws report.firings (c.run s r (.ok d) h draws).draws := by
  have hg := gate_afterConfig hr
  obtain ⟨report, ha, hd, hf⟩ := HookCall.run_firings d h draws hc hg
  refine ⟨report, ha, hd, ?_⟩
  rw [hf, HookCall.run_eq_perform hc hg]
  exact afterConfigLaw_plan

end

/-- **The law of selection once the configuration was read.**  A call that is not switched
off and can read the dataset reports exactly the firings that the law gives: the overrides,
the draws and the replays, each group in stored order, with one draw for each experiment
that takes part. -/
theorem afterConfig_selection_law (c : HookCall) (s : Settings) (r : Request) (d : Dataset)
    (h : Host) (draws : Draws) (hc : c.hook? = some .afterConfig)
    (hr : r.adminDisabled s = false) :
    ∃ report, (c.run s r (.ok d) h draws).answer = .report report ∧ report.disabled = false ∧
      ∀ firings left, AfterConfigLaw s r d h.session draws firings left ↔
        firings = report.firings ∧ left = (c.run s r (.ok d) h draws).draws := by
  obtain ⟨report, ha, hd, law⟩ := HookCall.afterConfigLaw_run hc hr d h draws
  refine ⟨report, ha, hd, fun firings left => ⟨fun law' => law'.unique law, ?_⟩⟩
  rintro ⟨rfl, rfl⟩
  exact law

/-- A request that asks for nothing draws once for a coin, and its number falls on heads. -/
theorem coin_afterConfig_law :
    AfterConfigLaw .standard (.flip "") (.ofList [Entry.coin .request]) (default : Host).session
      (.constant 1) [⟨"coin", "heads", .draw 1⟩] ⟨fun _ => 1, 1⟩ := by
  obtain ⟨report, ha, -, law⟩ := afterConfig_selection_law (.evaluate .afterConfig) .standard
    (.flip "") (.ofList [Entry.coin .request]) default (.constant 1) rfl rfl
  have hanswer : ((HookCall.evaluate .afterConfig).run .standard (.flip "")
      (.ok (.ofList [Entry.coin .request])) default (.constant 1)).answer =
        .report ⟨false, [⟨"coin", "heads", .draw 1⟩], .empty⟩ := rfl
  obtain rfl := HookAnswer.report.inj (ha.symm.trans hanswer)
  exact (law _ _).mpr ⟨rfl, rfl⟩

end SplitTest

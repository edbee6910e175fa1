import SplitTest.Report.Placement
import SplitTest.Proofs.Hook.DevicePlacement
import SplitTest.Proofs.Hook.Steering

/-!
# What the report of placements foretells

The report of placements knows a device and no request: it places the device of a guest.  The
hook before the session places the device of whoever makes the request, and lets parameters
override.  Who the requester is besides is nothing to a device experiment
(`Entry.eligible_of_device`), so the placements that have a condition are what the hook fires,
as long as the request asks for no condition (`placements_law`).
-/

namespace SplitTest.Report

open SplitTest.Store

/-- The firing that a placement foretells, if the bucket falls on a condition. -/
def Placement.firing? (p : Placement) : Option Firing :=
  p.condset.map fun y => ⟨p.experiment, y, .hash p.bucket⟩

/-- A placement says where the bucket of a device falls in an experiment. -/
structure Placement.IsOf (device : Device.Fingerprint) (address : Option String) (e : Entry)
    (p : Placement) : Prop where
  /-- It names the experiment. -/
  experiment : p.experiment = e.shortname
  /-- It tells the offset of the experiment. -/
  numericOffset : p.numericOffset = e.experiment.numericOffset
  /-- Its bucket is that of the device under the offset. -/
  bucket : p.bucket = device.bucket e.experiment.numericOffset
  /-- Its condset is that of the condition on which the bucket falls. -/
  condset : ∀ y, p.condset = some y ↔
    ∃ c, e.BucketFallsOn address p.bucket c ∧ c.condset = y

section
variable {device : Device.Fingerprint} {q q' : Requester} {e : Entry}

theorem place_isOf (he : e.scope = .device) :
    (place device q e).IsOf device q.address e where
  experiment := rfl
  numericOffset := rfl
  bucket := rfl
  condset y := by
    rw [place, Option.map_eq_some_iff]
    exact exists_congr fun c => and_congr_left fun _ => Entry.select_stable_eq_some_iff he

/-- A device experiment places requesters of one address alike. -/
theorem place_congr (he : e.scope = .device) (haddress : q'.address = q.address) :
    place device q' e = place device q e := by
  rw [place, place, Entry.eligible_of_device he haddress]

/-- **What buckets choose is what placements foretell**, in the same order. -/
theorem firings_hashed (es : List Entry) :
    (hashed device q es).map Selected.firing =
      (es.map (place device q)).filterMap Placement.firing? := by
  rw [hashed, List.map_filterMap, List.filterMap_map]
  refine List.filterMap_congr fun e _ => ?_
  rw [Function.comp_apply, Placement.firing?, place, Option.map_map, Option.map_map]
  rfl

end

/-- The report places the device of every requester with the address. -/
theorem placements_bucket {q : Requester} {address : String} (d : Dataset) (agent : String)
    (haddress : q.address = some address) :
    (bucket d address agent).placements =
      (d.activeIn .device).map (place (.compute address agent) q) :=
  List.map_congr_left fun _ he => place_congr (Dataset.mem_activeIn_iff.mp he).2.2 haddress.symm

/-- **The placements foretell the hook before the session.**  A call of it that is not switched
off, by a requester with the address and the user agent, fires the placements that have a
condition, in their order and with their buckets, exactly if the request asks for no condition
of an enabled device experiment.  The report has one placement for each enabled device
experiment, in stored order, and it says where the bucket of the device falls. -/
theorem placements_law (c : HookCall) (s : Settings) (r : Request) (d : Dataset) (h : Host)
    (draws : Draws) (address agent : String) (hc : c.hook? = some .beforeSession)
    (haddress : r.requester.address = some address) (hagent : r.requester.userAgent = some agent)
    (hon : r.disabledBy s.disableParam = false) :
    (∃ report, (c.run s r (.ok d) h draws).answer = .report report ∧ report.disabled = false ∧
      (report.firings = (bucket d address agent).placements.filterMap Placement.firing? ↔
        ∀ e ∈ d.items, ∀ y, ¬r.AsksDevice e y)) ∧
    List.Forall₂ (Placement.IsOf (.compute address agent) (some address)) (d.activeIn .device)
      (bucket d address agent).placements := by
  have hg : EvaluationHook.beforeSession.gate s r = .proceed (some (.compute address agent)) := by
    simp [EvaluationHook.gate, Request.device?, haddress, hagent, hon]
  obtain ⟨report, ha, hdisabled, hfirings⟩ := HookCall.run_firings d h draws hc hg
  refine ⟨⟨report, ha, hdisabled, ?_⟩, ?_⟩
  · -- what is asked for comes before what is placed
    rw [hfirings, EvaluationHook.plan, Plan.beforeSession, List.map_append, firings_hashed,
      placements_bucket d agent haddress, List.append_left_eq_self,
      deviceOverrides_eq_nil_iff]
  · rw [placements_bucket d agent haddress, ← haddress, List.forall₂_map_right_iff]
    exact List.forall₂_same.mpr fun e he => place_isOf (Dataset.mem_activeIn_iff.mp he).2.2

/-- An administrator's device sees the side of a coin that the report places it on. -/
theorem coin_placement :
    (bucket (.ofList [Entry.coin .device]) "192.0.2.1" "ua").placements =
        [⟨"coin", 0, 7, some "heads"⟩] ∧
      ∃ report, (HookCall.run (.evaluate .beforeSession) .standard (.browse true)
          (.ok (.ofList [Entry.coin .device])) default (.constant 1)).answer = .report report ∧
        report.firings = [⟨"coin", "heads", .hash 7⟩] := by
  have hplaced : (bucket (.ofList [Entry.coin .device]) "192.0.2.1" "ua").placements =
      [⟨"coin", 0, 7, some "heads"⟩] := by decide +kernel
  obtain ⟨⟨report, ha, -, hfirings⟩, -⟩ := placements_law (.evaluate .beforeSession) .standard
    (.browse true) (.ofList [Entry.coin .device]) default (.constant 1) "192.0.2.1" "ua" rfl rfl
    rfl rfl
  refine ⟨hplaced, report, ha, ?_⟩
  rw [hfirings.mpr ?_, hplaced]
  · rfl
  · -- the request has no parameters
    rintro e - y ⟨-, -, -, -, hasked⟩
    cases hasked

end SplitTest.Report

import SplitTest.Hook.Evaluation
import SplitTest.Proofs.Hook.Law
import SplitTest.Proofs.Host.Batch

/-!
# Firing

Running chosen conditions reports one firing for each of them, in order, provided each
choice names a condition of its experiment (`firings_fire`), and all choices of the hooks
do (`names_plan`).  Commands never touch the session (`session_fire`).

Each group of choices is then the list of firings that the law of selection describes
(`firingsOf_overrides`, `firingsOf_drawnFrom`, `firingsOf_hashed`, `firingsOf_replays`).
-/

namespace SplitTest

/-! ## The session while commands run -/

namespace Host

/-- Commands leave the session alone. -/
@[simp] theorem session_fire (xs : List Selected) :
    ∀ h : Host, (h.fire xs).1.session = h.session := by
  induction xs with
  | nil => intro h; rfl
  | cons x xs ih =>
    intro h
    rw [fire]
    split
    · exact ih h
    · rw [ih, session_execute]

end Host

/-! ## One firing for each choice -/

namespace Selected

/-- The firing that a choice leads to. -/
def firing (x : Selected) : Firing := ⟨x.entry.shortname, x.condset, x.selection⟩

/-- A choice names a condition of its experiment. -/
def NamesCondition (x : Selected) : Prop := x.condset ∈ x.entry.conditions.keys

end Selected

/-- **Every choice that names a condition fires**, in order. -/
theorem Host.firings_fire {xs : List Selected} (hxs : ∀ x ∈ xs, x.NamesCondition) :
    ∀ h : Host, (h.fire xs).2.map Prod.fst = xs.map Selected.firing := by
  induction xs with
  | nil => intro h; rfl
  | cons x xs ih =>
    intro h
    obtain ⟨c, hc⟩ := Option.isSome_iff_exists.mp
      (Entry.isSome_condition?_iff.mpr (hxs x List.mem_cons_self))
    have ih' := ih fun y hy => hxs y (List.mem_cons_of_mem x hy)
    rw [fire, hc]
    simp only [List.map_cons, ih', Selected.firing]

/-- The firings of a list of choices, one for each element that is kept and gives one. -/
theorem firingsOf_filterMap {α : Type} {Fires : α → Firing → Prop} {keep : α → Bool}
    {choose : α → Option Selected} {as : List α}
    (h : ∀ a ∈ as, ∀ f, Fires a f ↔ keep a = true ∧ ∃ x, choose a = some x ∧ x.firing = f) :
    FiringsOf Fires as (((as.filter keep).filterMap choose).map Selected.firing) := by
  induction as with
  | nil => exact .nil
  | cons a as ih =>
    have ih' := ih fun b hb => h b (List.mem_cons_of_mem a hb)
    have ha := h a List.mem_cons_self
    cases hk : keep a with
    | false =>
      rw [List.filter_cons_of_neg (by simp [hk])]
      exact .silent (fun f hf => by simp [ha f, hk] at hf) ih'
    | true =>
      rw [List.filter_cons_of_pos hk]
      cases hx : choose a with
      | none =>
        rw [List.filterMap_cons_none hx]
        exact .silent (fun f hf => by simp [ha f, hx] at hf) ih'
      | some x =>
        rw [List.filterMap_cons_some hx, List.map_cons]
        exact .fires ((ha x.firing).mpr ⟨hk, x, hx, rfl⟩) ih'

theorem Entry.drawn?_eq_some_iff {e : Entry} {r : Requester} {n : Nat} {x : Selected}
    (h : e.scope ≠ .device) :
    e.drawn? r n = some x ↔ ∃ c, e.DrawFallsOn r n c ∧ ⟨e, c.condset, .draw n⟩ = x := by
  simp only [Entry.drawn?, Option.map_eq_some_iff, Entry.select_uniform_eq_some_iff h]

/-- Entries with the draws that they take, by their places. -/
theorem withDraws_eq_map (es : List Entry) (draws : Draws) :
    withDraws es draws =
      es.zipIdx.map fun roll => (roll.1, draws.values (draws.rolls + roll.2)) := by
  rw [withDraws, Draws.take, List.zipIdx_eq_zip_range', ← List.range_eq_range',
    List.zip_map_right]
  rfl

/-! ## The groups of choices -/

section
variable {s : Settings} {r : Request} {d : Dataset} {session : Session} {draws : Draws}

/-- The overrides among the entries that can be overridden, `Asks` saying what is asked. -/
theorem firingsOf_overrides_of {Asks : Entry → String → Prop} {keep : Entry → Bool}
    {asked : String → Option String}
    (h : ∀ e c, Asks e c ↔ keep e = true ∧ e.override? (asked e.shortname) = some c) :
    FiringsOf (fun e f => ∃ c, Asks e c ∧ f = ⟨e.shortname, c, .byOverride⟩) d.items
      ((overrides asked (d.items.filter keep)).map Selected.firing) := by
  refine firingsOf_filterMap fun e _ f => ?_
  simp only [h, Option.map_eq_some_iff]
  constructor
  · rintro ⟨c, ⟨hk, hc⟩, rfl⟩
    exact ⟨hk, _, ⟨c, hc, rfl⟩, rfl⟩
  · rintro ⟨hk, x, ⟨c, hc, rfl⟩, rfl⟩
    exact ⟨c, ⟨hk, hc⟩, rfl⟩

theorem firingsOf_overrides :
    FiringsOf (r.OverrideFires s) d.items
      ((overrides (r.askedAfterConfig s) d.overridableAfterConfig).map Selected.firing) :=
  firingsOf_overrides_of fun _ _ => Request.asksFor_iff

theorem firingsOf_deviceOverrides :
    FiringsOf r.DeviceOverrideFires d.items
      ((overrides r.param? d.overridableBeforeSession).map Selected.firing) :=
  firingsOf_overrides_of fun _ _ => Request.asksDevice_iff

/-- No device experiment is overridden exactly if the request asks for no condition of one. -/
theorem deviceOverrides_eq_nil_iff :
    (overrides r.param? d.overridableBeforeSession).map Selected.firing = [] ↔
      ∀ e ∈ d.items, ∀ c, ¬r.AsksDevice e c := by
  have hoverrides : FiringsOf r.DeviceOverrideFires d.items _ := firingsOf_deviceOverrides
  rw [hoverrides.eq_nil_iff]
  refine forall₂_congr fun e _ => ⟨fun h c hc => h _ ⟨c, hc, rfl⟩, ?_⟩
  rintro h f ⟨c, hc, -⟩
  exact h c hc

theorem firingsOf_hashed (device : Device.Fingerprint) :
    FiringsOf (Entry.HashFires device r.requester.address) d.items
      ((hashed device r.requester (d.activeIn .device)).map Selected.firing) := by
  refine firingsOf_filterMap fun e _ f => ?_
  simp only [Entry.HashFires, Bool.and_eq_true, beq_iff_eq, Option.map_eq_some_iff, and_assoc]
  refine and_congr_right fun _ => and_congr_right fun hs => ?_
  simp only [Selector.ofDevice, Selector.point, Entry.select_stable_eq_some_iff hs]
  constructor
  · rintro ⟨c, hc, rfl⟩
    exact ⟨_, ⟨c, hc, rfl⟩, rfl⟩
  · rintro ⟨x, ⟨c, hc, rfl⟩, rfl⟩
    exact ⟨c, hc, rfl⟩

theorem firingsOf_replays :
    FiringsOf (Entry.ReplayFires s session) d.items
      ((replays s session (d.activeIn .session)).map Selected.firing) := by
  refine firingsOf_filterMap fun e _ f => ?_
  simp only [Entry.ReplayFires, Entry.RememberedIn, Bool.and_eq_true, beq_iff_eq,
    Option.map_eq_some_iff, Option.filter_eq_some_iff, memo?_eq_some_iff,
    Entry.isSome_condition?_iff]
  constructor
  · rintro ⟨c, ⟨he, hs, hm, hc, hk⟩, rfl⟩
    exact ⟨⟨he, hs⟩, _, ⟨c, ⟨⟨hm, hc⟩, hk⟩, rfl⟩, rfl⟩
  · rintro ⟨⟨he, hs⟩, x, ⟨c, ⟨⟨hm, hc⟩, hk⟩, rfl⟩, rfl⟩
    exact ⟨c, ⟨he, hs, hm, hc, hk⟩, rfl⟩

theorem firingsOf_drawnFrom {es : List Entry} (hes : ∀ e ∈ es, e.scope ≠ .device) :
    FiringsOf (draws.Fires r.requester) es.zipIdx
      ((drawnFrom r.requester (withDraws es draws)).map Selected.firing) := by
  -- every roll is kept; the test is there for `firingsOf_filterMap` to speak of
  have h (keep : Entry × Nat → Bool) (hk : ∀ roll, keep roll = true) :
      FiringsOf (draws.Fires r.requester) es.zipIdx
        (((es.zipIdx.filter keep).filterMap fun roll =>
          roll.1.drawn? r.requester (draws.values (draws.rolls + roll.2))).map
            Selected.firing) := by
    refine firingsOf_filterMap fun roll hroll f => ?_
    have hs : roll.1.scope ≠ .device := hes _ (List.fst_mem_of_mem_zipIdx hroll)
    simp only [Draws.Fires, Entry.drawn?_eq_some_iff hs, hk, true_and]
    constructor
    · rintro ⟨c, hc, rfl⟩
      exact ⟨_, ⟨c, hc, rfl⟩, rfl⟩
    · rintro ⟨x, ⟨c, hc, rfl⟩, rfl⟩
      exact ⟨c, hc, rfl⟩
  rw [drawnFrom, withDraws_eq_map, List.filterMap_map]
  simpa using h (fun _ => true) fun _ => rfl

end

end SplitTest

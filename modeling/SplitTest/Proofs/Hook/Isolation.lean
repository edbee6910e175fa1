import Mathlib.Data.List.Forall2
import SplitTest.Proofs.Hook.OncePerRequest

/-!
# Experiments are selected in isolation

All experiments draw from one sequence, so what is done to the conditions of one of them
could shift the draws of those behind it.  It does not for guests on the web: an experiment
draws or not by its own record, never by its conditions, so two datasets that differ in the
conditions of one experiment have the same experiments drawing, at the same places.

The two datasets are compared entry by entry (`Dataset.DiffersAt`), and so are the lists that
the hooks make of them: those that draw, and the draws that they take (`forall₂_withDraws`).
A choice is then the same in both or one of the experiment itself (`butFor_filterMap`), and the
sessions agree but for the key of that experiment (`Session.AgreesBut`).  What one call keeps
(`isolation_law`) a whole visit of guests keeps (`Visit.Alike.run`).
-/

namespace SplitTest

open SplitTest.Store

/-! ## What is compared -/

/-- Two entries of one experiment, which are the same unless it is `x`. -/
structure Entry.Alike (x : String) (e e' : Entry) : Prop where
  /-- They have the same record. -/
  experiment : e'.experiment = e.experiment
  /-- They have the same conditions, unless they are of `x`. -/
  conditions : e.shortname ≠ x → e'.conditions = e.conditions

/-- Two datasets differ at most in the conditions of the experiment `x`. -/
def Dataset.DiffersAt (x : String) (d d' : Dataset) : Prop :=
  List.Forall₂ (Entry.Alike x) d.items d'.items

/-- Two sessions agree on every key but one, and both hold that one or neither does. -/
structure Session.AgreesBut (key : String) (a b : Session) : Prop where
  /-- They agree on the other keys. -/
  others : ∀ k, k ≠ key → b.get? k = a.get? k
  /-- Both hold the key, or neither does. -/
  holds : b.contains key = a.contains key

/-- The firings of experiments other than `x`, in order. -/
def butFor (x : String) (fs : List Firing) : List Firing := fs.filter fun f => f.experiment ≠ x

/-- Two results of a call tell and leave the same, but for the experiment `x`. -/
structure SameBut (s : Settings) (x : String) (result result' : HookResult HookAnswer) : Prop where
  /-- The answers have the same firings of other experiments, in the same order. -/
  firings : butFor x result'.answer.firings = butFor x result.answer.firings
  /-- As many numbers were drawn. -/
  draws : result'.draws = result.draws
  /-- The sessions agree but for the key of the experiment. -/
  session : result.host.session.AgreesBut (s.sessionKey x) result'.host.session

/-! ## Sessions -/

namespace Session.AgreesBut
variable {key : String} {a b : Session}

theorem refl (key : String) (a : Session) : AgreesBut key a a := ⟨fun _ _ => rfl, rfl⟩

theorem contains (h : AgreesBut key a b) (k : String) : b.contains k = a.contains k := by
  by_cases hk : k = key
  · rw [hk, h.holds]
  · rw [← Dictionary.isSome_get?, ← Dictionary.isSome_get?, h.others k hk]

/-- Sessions that agree still agree when both are written under one key. -/
theorem set (h : AgreesBut key a b) {k k' v v' : String} (hk : k' = k)
    (hv : k ≠ key → v' = v) : AgreesBut key (a.set k v) (b.set k' v') where
  others := by
    subst hk
    intro j hj
    by_cases hjk : j = k'
    · subst hjk
      rw [Dictionary.get?_set_self, Dictionary.get?_set_self, hv hj]
    · rw [Dictionary.get?_set_of_ne hjk, Dictionary.get?_set_of_ne hjk, h.others j hj]
  holds := by
    subst hk
    rw [← Dictionary.isSome_get?, ← Dictionary.isSome_get?]
    by_cases hkey : key = k'
    · subst hkey
      rw [Dictionary.get?_set_self, Dictionary.get?_set_self]
      rfl
    · rw [Dictionary.get?_set_of_ne hkey, Dictionary.get?_set_of_ne hkey,
        Dictionary.isSome_get?, Dictionary.isSome_get?, h.holds]

/-- What is remembered of another experiment is the same. -/
theorem memo? {s : Settings} {x y : String} (h : AgreesBut (s.sessionKey x) a b) (hy : y ≠ x) :
    memo? s b y = memo? s a y := by
  have hkey : s.sessionKey y ≠ s.sessionKey x := fun hkey => hy (s.sessionKey_injective hkey)
  rw [SplitTest.memo?, SplitTest.memo?, h.others _ hkey]

end Session.AgreesBut

/-! ## Lists that are alike -/

namespace Entry.Alike
variable {x : String} {e e' : Entry}

theorem refl (x : String) (e : Entry) : e.Alike x e := ⟨rfl, fun _ => rfl⟩

theorem shortname (h : e.Alike x e') : e'.shortname = e.shortname :=
  congrArg Experiment.shortname h.experiment

theorem scope (h : e.Alike x e') : e'.scope = e.scope := congrArg Experiment.scope h.experiment

theorem enabled (h : e.Alike x e') : e'.enabled = e.enabled :=
  congrArg Experiment.enabled h.experiment

theorem eq (h : e.Alike x e') (hx : e.shortname ≠ x) : e' = e := by
  have hconditions := h.conditions hx
  have hexperiment := h.experiment
  cases e
  cases e'
  simp only at hconditions hexperiment
  rw [hconditions, hexperiment]

end Entry.Alike

section
variable {x : String} {es es' : List Entry}

/-- Entries that are alike are still alike after a test of their records. -/
theorem forall₂_filter {p p' : Entry → Bool} (h : List.Forall₂ (Entry.Alike x) es es')
    (hp : ∀ e e', e.Alike x e' → p' e' = p e) :
    List.Forall₂ (Entry.Alike x) (es.filter p) (es'.filter p') :=
  List.rel_filter (fun e e' he => by simp only [hp e e' he]) h

/-- Two rolls of entries that are alike, with the same number. -/
def Entry.RollsAlike (x : String) (roll roll' : Entry × Nat) : Prop :=
  roll.1.Alike x roll'.1 ∧ roll'.2 = roll.2

/-- **Entries that are alike take the same draws.** -/
theorem forall₂_withDraws (h : List.Forall₂ (Entry.Alike x) es es') (draws : Draws) :
    List.Forall₂ (Entry.RollsAlike x) (withDraws es draws) (withDraws es' draws) := by
  rw [withDraws, withDraws, ← h.length_eq]
  generalize draws.take es.length = ns
  induction h generalizing ns with
  | nil => exact .nil
  | cons he _ ih =>
    cases ns with
    | nil => exact .nil
    | cons n ns => exact .cons ⟨he, rfl⟩ (ih ns)

end

/-! ## Choices that are alike -/

@[simp] theorem butFor_append (x : String) (fs gs : List Firing) :
    butFor x (fs ++ gs) = butFor x fs ++ butFor x gs :=
  List.filter_append ..

/-- Elements choose for the experiments that they name. -/
def ChoosesFor {α : Type} (name : α → String) (choose : α → Option Selected) : Prop :=
  ∀ a y, choose a = some y → y.entry.shortname = name a

theorem choosesFor_map {α β : Type} {name : α → String} {pick : α → Option β}
    {make : α → β → Selected} (h : ∀ a b, (make a b).entry.shortname = name a) :
    ChoosesFor name fun a => (pick a).map (make a) := by
  intro a y hy
  obtain ⟨b, -, rfl⟩ := Option.map_eq_some_iff.mp hy
  exact h a b

/-- **Choices are the same but for one experiment**, if every element of another is in both
lists and chooses the same. -/
theorem butFor_filterMap {α : Type} {R : α → α → Prop} {as as' : List α} {x : String}
    (name : α → String) {choose choose' : α → Option Selected} (h : List.Forall₂ R as as')
    (hname : ChoosesFor name choose) (hname' : ChoosesFor name choose')
    (hR : ∀ a a', R a a' → name a' = name a ∧ (name a ≠ x → choose' a' = choose a)) :
    butFor x ((as'.filterMap choose').map Selected.firing) =
      butFor x ((as.filterMap choose).map Selected.firing) := by
  -- what an element adds to the firings of others, which is nothing if it is of `x`
  let adds (choose : α → Option Selected) (a : α) : List Firing :=
    butFor x ((choose a).toList.map Selected.firing)
  have hcons (choose : α → Option Selected) (a : α) (as : List α) :
      butFor x (((a :: as).filterMap choose).map Selected.firing) =
        adds choose a ++ butFor x ((as.filterMap choose).map Selected.firing) := by
    rw [← butFor_append, ← List.map_append]
    cases hc : choose a <;> simp [hc]
  have hnone {choose : α → Option Selected} (hname : ChoosesFor name choose) {a : α}
      (ha : name a = x) : adds choose a = [] := by
    cases hc : choose a with
    | none => simp [adds, hc, butFor]
    | some y => simp [adds, hc, butFor, Selected.firing, hname a y hc, ha]
  induction h with
  | nil => rfl
  | @cons a a' as as' ha _ ih =>
    obtain ⟨hsame, hchoose⟩ := hR a a' ha
    rw [hcons, hcons, ih]
    by_cases hx : name a = x
    · rw [hnone hname hx, hnone hname' (hsame.trans hx)]
    · simp only [adds, hchoose hx]

section
variable {x : String} {es es' : List Entry} {rolls rolls' : List (Entry × Nat)}

theorem Entry.RollsAlike.eq {roll roll' : Entry × Nat} (h : RollsAlike x roll roll')
    (hx : roll.1.shortname ≠ x) : roll' = roll :=
  Prod.ext (h.1.eq hx) h.2

/-- Choices among entries that are alike, if only the entry of `x` is chosen from in two ways. -/
theorem butFor_chosen {choose choose' : Entry → Option Selected}
    (h : List.Forall₂ (Entry.Alike x) es es') (hown : ChoosesFor Entry.shortname choose)
    (hown' : ChoosesFor Entry.shortname choose')
    (hsame : ∀ e : Entry, e.shortname ≠ x → choose' e = choose e) :
    butFor x ((es'.filterMap choose').map Selected.firing) =
      butFor x ((es.filterMap choose).map Selected.firing) :=
  butFor_filterMap Entry.shortname h hown hown' fun e _ he =>
    ⟨he.shortname, fun hx => by rw [he.eq hx, hsame e hx]⟩

theorem butFor_overrides (h : List.Forall₂ (Entry.Alike x) es es')
    (asked : String → Option String) :
    butFor x ((overrides asked es').map Selected.firing) =
      butFor x ((overrides asked es).map Selected.firing) :=
  butFor_chosen h (choosesFor_map fun _ _ => rfl) (choosesFor_map fun _ _ => rfl) fun _ _ => rfl

theorem butFor_hashed (h : List.Forall₂ (Entry.Alike x) es es') (device : Device.Fingerprint)
    (q : Requester) :
    butFor x ((hashed device q es').map Selected.firing) =
      butFor x ((hashed device q es).map Selected.firing) :=
  butFor_chosen h (choosesFor_map fun _ _ => rfl) (choosesFor_map fun _ _ => rfl) fun _ _ => rfl

theorem butFor_replays {s : Settings} {session session' : Session}
    (h : List.Forall₂ (Entry.Alike x) es es')
    (hsession : session.AgreesBut (s.sessionKey x) session') :
    butFor x ((replays s session' es').map Selected.firing) =
      butFor x ((replays s session es).map Selected.firing) :=
  butFor_chosen h (choosesFor_map fun _ _ => rfl) (choosesFor_map fun _ _ => rfl)
    fun _ hx => by rw [hsession.memo? hx]

theorem butFor_drawnFrom (h : List.Forall₂ (Entry.RollsAlike x) rolls rolls') (q : Requester) :
    butFor x ((drawnFrom q rolls').map Selected.firing) =
      butFor x ((drawnFrom q rolls).map Selected.firing) :=
  butFor_filterMap (fun roll => roll.1.shortname) h (choosesFor_map fun _ _ => rfl)
    (choosesFor_map fun _ _ => rfl) fun _ _ hr => ⟨hr.1.shortname, fun hx => by rw [hr.eq hx]⟩

/-- **Sessions still agree when both have decided**: rolls that are alike write the same keys,
and the same values but for `x`. -/
theorem Session.AgreesBut.decide {s : Settings} (q : Requester)
    (h : List.Forall₂ (Entry.RollsAlike x) rolls rolls') :
    ∀ {session session' : Session}, session.AgreesBut (s.sessionKey x) session' →
      (decide s q session rolls).AgreesBut (s.sessionKey x) (decide s q session' rolls') := by
  induction h with
  | nil => exact id
  | @cons roll roll' rolls rolls' hroll _ ih =>
    intro session session' hsession
    have hvalue (hkey : s.sessionKey roll.1.shortname ≠ s.sessionKey x) :
        decision q roll' = decision q roll := by
      rw [hroll.eq fun hx => hkey (congrArg s.sessionKey hx)]
    exact ih (hsession.set (congrArg s.sessionKey hroll.1.shortname) hvalue)

end

/-! ## Plans that are alike -/

/-- A guest makes a request on the web. -/
def Request.ByGuest (r : Request) : Prop := r.requester.isAdmin = false ∧ r.mode = .web

/-- Two plans choose and leave the same, but for the experiment `x`. -/
structure Plan.Alike (s : Settings) (x : String) (p p' : Plan) : Prop where
  /-- The same conditions of other experiments are chosen, in the same order. -/
  selected : butFor x (p'.selected.map Selected.firing) = butFor x (p.selected.map Selected.firing)
  /-- As many numbers are drawn. -/
  draws : p'.draws = p.draws
  /-- The sessions agree but for the key of the experiment. -/
  session : p.session.AgreesBut (s.sessionKey x) p'.session

section
variable {s : Settings} {r : Request} {x : String} {d d' : Dataset} {session session' : Session}

theorem Dataset.DiffersAt.activeIn (hd : d.DiffersAt x d') (sc : Scope) :
    List.Forall₂ (Entry.Alike x) (d.activeIn sc) (d'.activeIn sc) :=
  forall₂_filter hd fun _ _ he => by rw [he.enabled, he.scope]

/-- A guest on the web asks for nothing once the configuration was read. -/
theorem Request.ByGuest.askedAfterConfig (hr : r.ByGuest) (y : String) :
    r.askedAfterConfig s y = none := by
  simp [Request.askedAfterConfig, hr.1, hr.2]

theorem Request.ByGuest.overrides (hr : r.ByGuest) (es : List Entry) :
    overrides (r.askedAfterConfig s) es = [] := by
  refine List.filterMap_eq_nil_iff.mpr fun e _ => ?_
  rw [hr.askedAfterConfig]
  rfl

/-- Once the configuration was read the same experiments draw, as there are no overrides that
could keep an experiment from it. -/
theorem Plan.alike_afterConfig (hr : r.ByGuest) (hd : d.DiffersAt x d')
    (hsession : session.AgreesBut (s.sessionKey x) session') (draws : Draws) :
    (afterConfig s r d session draws).Alike s x (afterConfig s r d' session' draws) := by
  have hdrawing : List.Forall₂ (Entry.Alike x)
      (d.active.filter fun e => drawsAfterConfig [] e && e.experiment.appliesTo r.requester)
      (d'.active.filter fun e => drawsAfterConfig [] e && e.experiment.appliesTo r.requester) :=
    forall₂_filter (forall₂_filter hd fun _ _ he => he.enabled) fun _ _ he => by
      rw [drawsAfterConfig, drawsAfterConfig, he.scope, he.shortname, he.experiment]
  constructor
  · simp only [afterConfig, hr.overrides, List.map_append, List.map_nil, butFor_append]
    rw [butFor_drawnFrom (forall₂_withDraws hdrawing draws),
      butFor_replays (hd.activeIn .session) hsession]
  · simp only [afterConfig, hr.overrides, List.map_nil, hdrawing.length_eq]
  · exact hsession

theorem Plan.alike_beforeSession (hd : d.DiffersAt x d')
    (hsession : session.AgreesBut (s.sessionKey x) session') (device : Device.Fingerprint)
    (draws : Draws) :
    (beforeSession device r d session draws).Alike s x
      (beforeSession device r d' session' draws) where
  selected := by
    simp only [beforeSession, List.map_append, butFor_append]
    rw [Dataset.overridableBeforeSession, Dataset.overridableBeforeSession,
      butFor_overrides (hd.activeIn .device), butFor_hashed (hd.activeIn .device)]
  draws := rfl
  session := hsession

/-- After login the same experiments draw, as the sessions hold the same keys. -/
theorem Plan.alike_afterRequireLogin (hd : d.DiffersAt x d')
    (hsession : session.AgreesBut (s.sessionKey x) session') (draws : Draws) :
    (afterRequireLogin s r d session draws).Alike s x
      (afterRequireLogin s r d' session' draws) := by
  have hdeciding : List.Forall₂ (Entry.Alike x) (undecided s r.requester session d)
      (undecided s r.requester session' d') :=
    forall₂_filter (hd.activeIn .session) fun _ _ he => by
      rw [he.experiment, he.shortname, hsession.contains]
  have hrolls := forall₂_withDraws hdeciding draws
  constructor
  · exact butFor_drawnFrom hrolls r.requester
  · simp only [afterRequireLogin, hdeciding.length_eq]
  · exact hsession.decide r.requester hrolls

/-- **The plans of a guest are alike.** -/
theorem EvaluationHook.alike_plan (k : EvaluationHook) (device : Option Device.Fingerprint)
    (hr : r.ByGuest) (hd : d.DiffersAt x d')
    (hsession : session.AgreesBut (s.sessionKey x) session') (draws : Draws) :
    (k.plan device s r d session draws).Alike s x (k.plan device s r d' session' draws) := by
  cases k with
  | afterConfig => exact Plan.alike_afterConfig hr hd hsession draws
  | beforeSession =>
    cases device with
    | none => exact ⟨rfl, rfl, hsession⟩
    | some device => exact Plan.alike_beforeSession hd hsession device draws
  | afterRequireLogin => exact Plan.alike_afterRequireLogin hd hsession draws

end

/-! ## Calls that are alike -/

section
variable {s : Settings} {r : Request} {x : String} {d d' : Dataset} {h h' : Host}

/-- **One call keeps what two datasets share**: it is performed on both, or it idles on both. -/
theorem HookCall.sameBut_run (c : HookCall) (hr : r.ByGuest) (hd : d.DiffersAt x d')
    (hsession : h.session.AgreesBut (s.sessionKey x) h'.session) (draws : Draws) :
    SameBut s x (c.run s r (.ok d) h draws) (c.run s r (.ok d') h' draws) := by
  by_cases hgo : ∃ k device, c.hook? = some k ∧ k.gate s r = .proceed device
  · obtain ⟨k, device, hc, hg⟩ := hgo
    have hplan := k.alike_plan device hr hd hsession draws
    rw [run_eq_perform hc hg, run_eq_perform hc hg]
    refine ⟨?_, hplan.draws, ?_⟩
    · simp only [HookAnswer.firings]
      rw [EvaluationHook.firings_perform h EvaluationHook.names_plan,
        EvaluationHook.firings_perform h' EvaluationHook.names_plan, hplan.selected]
    · simp only [EvaluationHook.session_perform]
      exact hplan.session
  · have hidle (d : Dataset) (h : Host) : (c.run s r (.ok d) h draws).Idle h draws := by
      rcases c.run_cases s r (.ok d) h draws with ⟨k, device, -, hc, hg, -⟩ | ⟨-, hidle⟩
      · exact absurd ⟨k, device, hc, hg⟩ hgo
      · exact hidle
    refine ⟨?_, (hidle d' h').draws.trans (hidle d h).draws.symm, ?_⟩
    · rw [(hidle d h).firings, (hidle d' h').firings]
    · rw [(hidle d h).session, (hidle d' h').session]
      exact hsession

end

/-- **Experiments are selected in isolation.**  A call of a guest on the web, on two datasets
that differ at most in the conditions of the experiment `x`, reports the same firings of every
other experiment, in the same order, draws as many numbers, and leaves the same session but for
what is decided of `x`. -/
theorem isolation_law (c : HookCall) (k : EvaluationHook) (s : Settings) (r : Request) (x : String)
    (d d' : Dataset) (h h' : Host) (draws : Draws) (hc : c.hook? = some k) (hr : r.ByGuest)
    (hd : d.DiffersAt x d') (hsession : h.session.AgreesBut (s.sessionKey x) h'.session) :
    ∃ report report',
      (c.run s r (.ok d) h draws).answer = .report report ∧
        (c.run s r (.ok d') h' draws).answer = .report report' ∧
          butFor x report'.firings = butFor x report.firings ∧
          (c.run s r (.ok d') h' draws).draws = (c.run s r (.ok d) h draws).draws ∧
          (c.run s r (.ok d) h draws).host.session.AgreesBut (s.sessionKey x)
            (c.run s r (.ok d') h' draws).host.session := by
  have hsame : SameBut s x _ _ := c.sameBut_run hr hd hsession draws
  have hreports (d : Dataset) (h : Host) :
      ∃ report, (c.run s r (.ok d) h draws).answer = .report report :=
    HookCall.exists_report_run hc fun _ => rfl
  obtain ⟨report, ha⟩ := hreports d h
  obtain ⟨report', ha'⟩ := hreports d' h'
  have hfirings := hsame.firings
  rw [ha, ha'] at hfirings
  exact ⟨report, report', ha, ha', hfirings, hsame.draws, hsame.session⟩

/-- A coin that is flipped after login, behind a blank with conditions of its own. -/
def Dataset.behind (conditions : Keyed Condition.condset) : Dataset :=
  .ofList [⟨⟨⟨2⟩, "Blank", "blank", .session, true, false, 0⟩, conditions⟩, Entry.coin .session]

/-- A coin takes the second draw and shows tails, whether the blank before it has two conditions
or none. -/
theorem coin_isolated :
    let flip (d : Dataset) := HookCall.run (.evaluate .afterRequireLogin) .standard (.browse false)
      (.ok d) default (.ofList [1, 51])
    (flip (.behind (Entry.coin .session).conditions)).answer =
        .report ⟨false, [⟨"blank", "heads", .draw 1⟩, ⟨"coin", "tails", .draw 51⟩], .empty⟩ ∧
      ∃ report, (flip (.behind .empty)).answer = .report report ∧
        butFor "blank" report.firings = [⟨"coin", "tails", .draw 51⟩] ∧
        (flip (.behind .empty)).draws.rolls = 2 ∧
        (flip (.behind .empty)).host.session.get? (Settings.standard.sessionKey "coin") =
          some "tails" := by
  intro flip
  have hflip : (flip (.behind (Entry.coin .session).conditions)).answer =
      .report ⟨false, [⟨"blank", "heads", .draw 1⟩, ⟨"coin", "tails", .draw 51⟩], .empty⟩ := by
    decide
  obtain ⟨before, report, hbefore, hreport, hfirings, hdraws, hsession⟩ :=
    isolation_law (.evaluate .afterRequireLogin) .afterRequireLogin .standard (.browse false)
      "blank" (.behind (Entry.coin .session).conditions) (.behind .empty) default default
      (.ofList [1, 51]) rfl ⟨rfl, rfl⟩
      (.cons ⟨rfl, fun h => absurd rfl h⟩ (.cons (.refl _ _) .nil)) (.refl _ _)
  obtain rfl := HookAnswer.report.inj (hflip.symm.trans hbefore)
  refine ⟨hflip, report, hreport, hfirings, congrArg Draws.rolls hdraws, ?_⟩
  exact (hsession.others _ (by decide)).trans (by decide)

/-! ## Visits that are alike -/

/-- A step is one of guests on the web, who keep the source of the datasets. -/
def VisitStep.ByGuests {σ : Type} : VisitStep σ → Prop
  | .begin r _ => r.ByGuest
  | .replaceSource _ => False
  | _ => True

namespace Visit

/-- Two visits of guests are alike, on datasets that differ at most in the conditions of the
experiment `x`. -/
structure Alike (x : String) (v v' : Visit (Except StoreError Dataset)) : Prop where
  /-- Their datasets differ at most there. -/
  source : ∃ d d', v.source = .ok d ∧ v'.source = .ok d' ∧ d.DiffersAt x d'
  /-- They have the same settings. -/
  settings : v'.settings = v.settings
  /-- They have the same request. -/
  request : v'.request = v.request
  /-- A guest makes it. -/
  guest : v.request.ByGuest
  /-- They are to draw the same numbers. -/
  draws : v'.draws = v.draws
  /-- Their sessions agree but for the key of `x`. -/
  session : v.host.session.AgreesBut (v.settings.sessionKey x) v'.host.session

section
variable {x : String} {v v' : Visit (Except StoreError Dataset)}

theorem Alike.reads (h : v.Alike x v') (c : HookCall) :
    ∃ d d', (v.read .fixed c).1 = .ok d ∧ (v'.read .fixed c).1 = .ok d' ∧ d.DiffersAt x d' := by
  rw [read, read, h.settings, h.request]
  cases c.readsDataset v.settings v.request with
  | false => exact ⟨.empty, .empty, rfl, rfl, .nil⟩
  | true => exact h.source

/-- A call of both has the same result but for `x`. -/
theorem Alike.sameBut (h : v.Alike x v') (c : HookCall) :
    SameBut v.settings x (v.result .fixed c) (v'.result .fixed c) := by
  obtain ⟨d, d', hread, hread', hd⟩ := h.reads c
  rw [result, result, hread, hread', h.settings, h.request, h.draws]
  exact c.sameBut_run h.guest hd h.session v.draws

/-- **A step keeps two visits alike.** -/
theorem Alike.step {step : VisitStep (Except StoreError Dataset)} (h : v.Alike x v')
    (hstep : step.ByGuests) : (v.step .fixed step).Alike x (v'.step .fixed step) := by
  cases step with
  | call c =>
    have hsame := h.sameBut c
    refine ⟨?_, h.settings, h.request, h.guest, hsame.draws, hsame.session⟩
    have hsource (w : Visit (Except StoreError Dataset)) :
        (w.call .fixed c).2.source = w.source := by
      rw [call_eq]
      simp only [read]
      split <;> rfl
    simpa only [Visit.step, hsource] using h.source
  | begin r scripts => exact ⟨h.source, h.settings, rfl, hstep, h.draws, h.session⟩
  | sendHeaders => exact ⟨h.source, h.settings, h.request, h.guest, h.draws, h.session⟩
  | replaceSource s => exact absurd hstep id
  | replaceConfig config => exact ⟨h.source, h.settings, h.request, h.guest, h.draws, h.session⟩
  | replaceDraws draws => exact ⟨h.source, h.settings, h.request, h.guest, rfl, h.session⟩

/-- **A whole visit of guests selects in isolation**: all its calls together report the same
firings of every other experiment, in the same order. -/
theorem Alike.run {steps : List (VisitStep (Except StoreError Dataset))}
    (hsteps : ∀ step ∈ steps, step.ByGuests) :
    ∀ {v v' : Visit (Except StoreError Dataset)}, v.Alike x v' →
      butFor x (v'.firings .fixed steps) = butFor x (v.firings .fixed steps) ∧
        (v.run .fixed steps).Alike x (v'.run .fixed steps) := by
  induction steps with
  | nil => intro v v' h; exact ⟨rfl, h⟩
  | cons step steps ih =>
    intro v v' h
    obtain ⟨hrest, hrun⟩ := ih (fun step hmem => hsteps step (List.mem_cons_of_mem _ hmem))
      (h.step (hsteps step List.mem_cons_self))
    refine ⟨?_, hrun⟩
    cases step with
    | call c =>
      have hcons (w : Visit (Except StoreError Dataset)) :
          w.firings .fixed (.call c :: steps) =
            (w.result .fixed c).answer.firings ++ (w.step .fixed (.call c)).firings .fixed steps :=
        List.flatMap_cons
      rw [hcons, hcons, butFor_append, butFor_append, hrest, (h.sameBut c).firings]
    | _ => exact hrest

end

end Visit

end SplitTest

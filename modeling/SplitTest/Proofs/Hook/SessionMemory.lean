import SplitTest.Proofs.Hook.AfterConfig
import SplitTest.Proofs.Hook.Run

/-!
# The memory of a session

A session decides an experiment at most once.  A decision is a key, a condset or the empty
text, and the number drawn for it (`Decision`).  Every call extends the session by its
decisions, in order, and does nothing else to it (`session_run`), so that a session is
what it was before a run followed by all decisions of the run.

What is kept, who writes, what is written, that nothing is decided twice and what is
replayed follow from this (`MemoryLaw`), whatever the dataset, the configuration, the
requester and the draws were from call to call.
-/

namespace SplitTest

open SplitTest.Store

/-- What a session decided. -/
structure Decision where
  /-- The key under which the session keeps it. -/
  key : String
  /-- The condset, or the empty text for none. -/
  value : String
  /-- The number drawn for it. -/
  draw : Nat
deriving DecidableEq, Repr

/-- What a decision adds to the session. -/
def Decision.record (x : Decision) : String × String := (x.key, x.value)

/-- The decision that an event reports. -/
def Event.decision? (s : Settings) : Event → Option Decision
  | .sessionDecided x c n => some ⟨s.sessionKey x, c, n⟩
  | _ => none

/-- The decisions that a call reports. -/
def HookResult.decisions {α : Type} (s : Settings) (result : HookResult α) : List Decision :=
  result.events.filterMap (Event.decision? s)

/-- The decisions of a run, in order. -/
def Visit.decisions {σ : Type} (source : Source σ) (v : Visit σ) (steps : List (VisitStep σ)) :
    List Decision :=
  (v.calls source steps).flatMap fun call => (call.1.result source call.2).decisions call.1.settings

/-- The decision of an experiment for the number that it drew. -/
def Entry.decides (s : Settings) (q : Requester) (roll : Entry × Nat) : Decision :=
  ⟨s.sessionKey roll.1.shortname, decision q roll, roll.2⟩

/-! ## The decisions of a plan -/

theorem Settings.sessionKey_injective (s : Settings) {x y : String}
    (h : s.sessionKey x = s.sessionKey y) : x = y :=
  (String.append_right_inj s.sessionKeyStart).mp h

section
variable {s : Settings} {q : Requester} {session : Session} {d : Dataset}

theorem withDraws_map_fst (es : List Entry) (draws : Draws) : (withDraws es draws).map Prod.fst = es :=
  List.map_fst_zip (by simp)

theorem withDraws_map_snd (es : List Entry) (draws : Draws) :
    (withDraws es draws).map Prod.snd = draws.take es.length :=
  List.map_snd_zip (by simp)

/-- The keys that a call decides are new to the session, and distinct. -/
theorem nodup_keys_append_decides (draws : Draws) :
    (session.keys ++ (withDraws (undecided s q session d) draws).map
      fun roll => (Entry.decides s q roll).key).Nodup := by
  have hkeys : (withDraws (undecided s q session d) draws).map
        (fun roll => (Entry.decides s q roll).key) =
      ((undecided s q session d).map Entry.shortname).map s.sessionKey := by
    conv_rhs => rw [← withDraws_map_fst (undecided s q session d) draws]
    rw [List.map_map, List.map_map]
    rfl
  rw [hkeys, List.nodup_append']
  refine ⟨session.distinct, ?_, ?_⟩
  · exact (d.distinct.sublist (undecided_sublist.map Entry.shortname)).map
      fun _ _ h => s.sessionKey_injective h
  · rintro key hkey hmem
    obtain ⟨_, hx, rfl⟩ := List.mem_map.mp hmem
    obtain ⟨e, he, rfl⟩ := List.mem_map.mp hx
    have habsent := (mem_undecided_iff.mp he).2.2.2
    exact Keyed.not_mem_keys_of_contains_eq_false habsent hkey

/-- **Deciding extends the session by the decisions**, in order. -/
theorem items_decide (draws : Draws) :
    (decide s q session (withDraws (undecided s q session d) draws)).items =
      session.items ++ ((withDraws (undecided s q session d) draws).map
        (Entry.decides s q)).map Decision.record := by
  rw [← Keyed.items_foldl_insert, List.map_map, List.foldl_map]
  · rfl
  · rw [List.map_append, List.map_map, List.map_map]
    exact nodup_keys_append_decides draws

theorem value_decides {roll : Entry × Nat} :
    (Entry.decides s q roll).value = "" ∨
      (Entry.decides s q roll).value ∈ roll.1.conditions.keys := by
  cases hx : roll.1.drawn? q roll.2 with
  | none => exact Or.inl (by simp [Entry.decides, decision, hx])
  | some x =>
    obtain ⟨c, hc, rfl⟩ := Option.map_eq_some_iff.mp hx
    refine Or.inr ?_
    have hvalue : (Entry.decides s q roll).value = c.condset := by
      simp [Entry.decides, decision, hx]
    rw [hvalue]
    exact List.mem_map_of_mem (List.mem_of_mem_filter (Selector.mem_of_select _ _ hc))

end

/-! ## The decisions of a call -/

theorem decision?_runEvents (s : Settings) (run : Firing × ExecutionReport) :
    (runEvents run).filterMap (Event.decision? s) = [] := by
  refine List.filterMap_eq_nil_iff.mpr fun event hevent => ?_
  rcases List.mem_cons.mp hevent with rfl | hevent
  · rfl
  · obtain ⟨rejection, -, rfl⟩ := List.mem_map.mp hevent
    rfl

/-- Running conditions decides nothing. -/
theorem decisions_perform (s : Settings) (h : Host) (p : Plan) :
    (EvaluationHook.perform h p).decisions s = p.events.filterMap (Event.decision? s) := by
  obtain ⟨runs, hruns⟩ := EvaluationHook.events_perform h p
  have hnone : (runs.flatMap runEvents).filterMap (Event.decision? s) = [] := by
    rw [List.filterMap_flatMap]
    exact List.flatMap_eq_nil_iff.mpr fun run _ => decision?_runEvents s run
  rw [HookResult.decisions, hruns, List.filterMap_append, hnone, List.append_nil]

theorem decision?_unknownOverrides (s : Settings) (asked : String → Option String)
    (es : List Entry) : (unknownOverrides asked es).filterMap (Event.decision? s) = [] := by
  refine List.filterMap_eq_nil_iff.mpr fun event hevent => ?_
  obtain ⟨e, -, he⟩ := List.mem_filterMap.mp hevent
  obtain ⟨c, -, rfl⟩ := Option.map_eq_some_iff.mp he
  rfl

theorem decision?_staleMemos (s : Settings) (session : Session) (es : List Entry) :
    (staleMemos s session es).filterMap (Event.decision? s) = [] := by
  refine List.filterMap_eq_nil_iff.mpr fun event hevent => ?_
  obtain ⟨e, -, he⟩ := List.mem_filterMap.mp hevent
  obtain ⟨c, -, rfl⟩ := Option.map_eq_some_iff.mp he
  rfl

/-- A call that idles decides nothing and leaves the session. -/
theorem HookResult.Idle.decisions {h : Host} {draws : Draws} {result : HookResult HookAnswer}
    (hidle : result.Idle h draws) (s : Settings) : result.decisions s = [] := by
  refine List.filterMap_eq_nil_iff.mpr fun event hevent => ?_
  rcases hidle.events event hevent with ⟨k, error, rfl⟩ | ⟨p, error, rfl⟩ <;> rfl

theorem HookResult.Idle.session {h : Host} {draws : Draws} {result : HookResult HookAnswer}
    (hidle : result.Idle h draws) : result.host.session = h.session := by
  rw [← hidle.host]

/-- Where the decisions of a call come from. -/
structure Decides (c : HookCall) (s : Settings) (r : Request)
    (read : Except StoreError Dataset) (h : Host) (draws : Draws)
    (result : HookResult HookAnswer) : Prop where
  /-- The session grows by the decisions. -/
  records : result.host.session.items =
    h.session.items ++ (result.decisions s).map Decision.record
  /-- Only the hook after login decides. -/
  writer : c.hook? ≠ some .afterRequireLogin → result.decisions s = []
  /-- That hook draws one number for each decision and no other. -/
  draws : c.hook? = some .afterRequireLogin →
    (result.decisions s).map Decision.draw = draws.take (result.decisions s).length ∧
      result.draws = { draws with rolls := draws.rolls + (result.decisions s).length }
  /-- A decision is one of an enabled session experiment that applies to the requester, and
  names a condset of it or none. -/
  source : ∀ x ∈ result.decisions s, ∃ d e, read = .ok d ∧ e ∈ d.items ∧
    e.enabled = true ∧ e.scope = .session ∧ e.AdmitsTo r.requester ∧
    x.key = s.sessionKey e.shortname ∧ (x.value = "" ∨ x.value ∈ e.conditions.keys)

theorem HookResult.Idle.decides {c : HookCall} {s : Settings} {r : Request}
    {read : Except StoreError Dataset} {h : Host} {draws : Draws}
    {result : HookResult HookAnswer} (hidle : result.Idle h draws) :
    Decides c s r read h draws result where
  records := by rw [hidle.decisions, hidle.session, List.map_nil, List.append_nil]
  writer := fun _ => hidle.decisions s
  draws := fun _ => by rw [hidle.decisions, hidle.draws]; exact ⟨rfl, rfl⟩
  source := by rw [hidle.decisions]; rintro x ⟨⟩

section
variable {s : Settings} {r : Request} {d : Dataset} {session : Session} {draws : Draws}

theorem decisions_afterRequireLogin :
    (Plan.afterRequireLogin s r d session draws).events.filterMap (Event.decision? s) =
      (withDraws (undecided s r.requester session d) draws).map (Entry.decides s r.requester) := by
  rw [Plan.afterRequireLogin, List.filterMap_map, ← List.filterMap_eq_map]
  rfl

/-- **Only the plan after login decides.** -/
theorem plan_of_ne_afterRequireLogin {k : EvaluationHook}
    (device : Option Device.Fingerprint) (s : Settings) (r : Request) (d : Dataset)
    (session : Session) (draws : Draws) (hk : k ≠ .afterRequireLogin) :
    (k.plan device s r d session draws).session = session ∧
      (k.plan device s r d session draws).events.filterMap (Event.decision? s) = [] := by
  cases k with
  | afterConfig =>
    refine ⟨rfl, ?_⟩
    simp only [EvaluationHook.plan, Plan.afterConfig, List.filterMap_append,
      decision?_unknownOverrides, decision?_staleMemos, List.append_nil]
  | beforeSession =>
    cases device with
    | none => exact ⟨rfl, rfl⟩
    | some f => exact ⟨rfl, decision?_unknownOverrides s _ _⟩
  | afterRequireLogin => exact absurd rfl hk

end

section
variable {c : HookCall} {s : Settings} {r : Request} {d : Dataset} {h : Host} {draws : Draws}
  {result : HookResult HookAnswer}

/-- A call after login decides what was undecided. -/
theorem decides_afterRequireLogin (hc : c.hook? = some .afterRequireLogin)
    (hdec : result.decisions s =
      (withDraws (undecided s r.requester h.session d) draws).map (Entry.decides s r.requester))
    (hsession : result.host.session =
      (Plan.afterRequireLogin s r d h.session draws).session)
    (hdraws : result.draws = (Plan.afterRequireLogin s r d h.session draws).draws) :
    Decides c s r (.ok d) h draws result where
  records := by
    rw [hsession, hdec]
    exact items_decide draws
  writer := fun hne => absurd hc hne
  draws := by
    intro _
    have hlength : (result.decisions s).length =
        (undecided s r.requester h.session d).length := by
      rw [hdec, List.length_map, ← List.length_map Prod.fst, withDraws_map_fst]
    refine ⟨?_, ?_⟩
    · rw [hlength, hdec, List.map_map, ← withDraws_map_snd]
      rfl
    · rw [hlength, hdraws]
      rfl
  source := by
    rw [hdec]
    intro x hx
    obtain ⟨roll, hroll, rfl⟩ := List.mem_map.mp hx
    have he : roll.1 ∈ undecided s r.requester h.session d := by
      rw [← withDraws_map_fst (undecided s r.requester h.session d) draws]
      exact List.mem_map_of_mem hroll
    obtain ⟨hmem, ⟨hen, hscope⟩, hadmits, -⟩ := mem_undecided_iff.mp he
    exact ⟨d, roll.1, rfl, hmem, hen, hscope, hadmits, rfl, value_decides⟩

/-- A call that decides nothing leaves the session. -/
theorem decides_of_none (hc : c.hook? ≠ some .afterRequireLogin)
    (hdec : result.decisions s = []) (hsession : result.host.session = h.session) :
    Decides c s r (.ok d) h draws result where
  records := by rw [hdec, hsession, List.map_nil, List.append_nil]
  writer := fun _ => hdec
  draws := fun he => absurd he hc
  source := by rw [hdec]; rintro x ⟨⟩

end

/-- **What every call does to a session**, whichever hook it calls. -/
theorem HookCall.decides_run (c : HookCall) (s : Settings) (r : Request)
    (read : Except StoreError Dataset) (h : Host) (draws : Draws) :
    Decides c s r read h draws (c.run s r read h draws) := by
  rcases c.run_cases s r read h draws with ⟨k, device, d, hc, -, rfl, hrun⟩ | ⟨-, hidle⟩
  · have hdec : (c.run s r (.ok d) h draws).decisions s =
        (k.plan device s r d h.session draws).events.filterMap (Event.decision? s) := by
      rw [hrun]
      exact decisions_perform s h _
    have hsession : (c.run s r (.ok d) h draws).host.session =
        (k.plan device s r d h.session draws).session := by
      rw [hrun]
      exact EvaluationHook.session_perform h _
    by_cases hk : k = .afterRequireLogin
    · subst hk
      refine decides_afterRequireLogin hc (hdec.trans decisions_afterRequireLogin) hsession ?_
      rw [hrun]
      rfl
    · obtain ⟨hsame, hnone⟩ := plan_of_ne_afterRequireLogin device s r d h.session draws hk
      refine decides_of_none ?_ (hdec.trans hnone) (hsession.trans hsame)
      rw [hc]
      exact fun he => hk (Option.some.inj he)
  · exact hidle.decides

/-! ## Runs -/

section
variable {σ : Type} (source : Source σ)

/-- **After a run the session is what it was and all decisions of the run**, in order. -/
theorem Visit.session_run (v : Visit σ) (steps : List (VisitStep σ)) :
    (v.run source steps).host.session.items =
      v.host.session.items ++ (v.decisions source steps).map Decision.record := by
  -- a call adds its decisions, and between calls nothing is added
  induction steps generalizing v with
  | nil => simp [Visit.decisions, Visit.calls]
  | cons step steps ih =>
    rw [Visit.run_cons, ih]
    by_cases hcall : ∃ c, step = .call c
    · obtain ⟨c, rfl⟩ := hcall
      have hrecords := (c.decides_run v.settings v.request (v.read source c).1 v.host v.draws).records
      rw [Visit.decisions, Visit.decisions, Visit.calls, List.flatMap_cons, List.map_append,
        ← List.append_assoc]
      exact congrArg (· ++ _) hrecords
    · have hne : ∀ c, step ≠ .call c := fun c hc => hcall ⟨c, hc⟩
      rw [Visit.session_step_of_ne_call hne, Visit.decisions, Visit.decisions,
        Visit.calls_cons_of_ne_call hne]

/-- **The law of a session's memory**, over a run. -/
structure MemoryLaw (v : Visit σ) (steps : List (VisitStep σ)) : Prop where
  /-- A value that the session holds at any time of the run is never changed or removed. -/
  kept : ∀ before after, steps = before ++ after → ∀ key value,
    (v.run source before).host.session.get? key = some value →
      (v.run source steps).host.session.get? key = some value
  /-- Only the hook after login writes the session. -/
  writer : ∀ w c, (w, c) ∈ v.calls source steps → c.hook? ≠ some .afterRequireLogin →
    (w.call source c).2.host.session = w.host.session
  /-- What a call writes are its decisions: under the key of an enabled session experiment
  of the dataset that it read, if that applies to the requester, one of its condsets or the
  empty text. -/
  written : ∀ w c, (w, c) ∈ v.calls source steps →
    (w.call source c).2.host.session.items = w.host.session.items ++
        ((w.result source c).decisions w.settings).map Decision.record ∧
      ∀ x ∈ (w.result source c).decisions w.settings, ∃ d e,
        (w.read source c).1 = .ok d ∧ e ∈ d.items ∧ e.enabled = true ∧ e.scope = .session ∧
          e.AdmitsTo w.request.requester ∧ x.key = w.settings.sessionKey e.shortname ∧
          (x.value = "" ∨ x.value ∈ e.conditions.keys)
  /-- Each number that the hook after login draws is drawn for a decision. -/
  draws : ∀ w c, (w, c) ∈ v.calls source steps → c.hook? = some .afterRequireLogin →
    ((w.result source c).decisions w.settings).map Decision.draw =
        w.draws.take ((w.result source c).decisions w.settings).length ∧
      (w.call source c).2.draws =
        { w.draws with
          rolls := w.draws.rolls + ((w.result source c).decisions w.settings).length }
  /-- No key is decided twice, nor one that the session held before the run. -/
  once : ((v.decisions source steps).map Decision.key).Nodup ∧
    ∀ x ∈ v.decisions source steps, x.key ∉ v.host.session.keys
  /-- Once the configuration was read, what the session remembers is replayed: in stored
  order, by every enabled session experiment for which it remembers a condset.  None of
  them draws. -/
  replayed : ∀ w c d, (w, c) ∈ v.calls source steps → c.hook? = some .afterConfig →
    w.request.adminDisabled w.settings = false → (w.read source c).1 = .ok d →
      ∃ report, (w.call source c).1 = .report report ∧ report.disabled = false ∧
        FiringsOf (Entry.ReplayFires w.settings w.host.session) d.items
          (report.firings.filter fun f => f.selection = .replay) ∧
        ∃ drawing, DrawOrder w.settings w.request d drawing ∧
          (∀ e ∈ drawing, e.scope ≠ .session) ∧
          (w.call source c).2.draws = { w.draws with rolls := w.draws.rolls + drawing.length }

end

/-- What an extended dictionary held before it still holds. -/
theorem Dictionary.get?_of_items_append {α : Type} {d d' : Dictionary α}
    {more : List (String × α)} (hitems : d'.items = d.items ++ more) {k : String} {x : α}
    (h : d.get? k = some x) : d'.get? k = some x := by
  obtain ⟨entry, hfind, rfl⟩ := Option.map_eq_some_iff.mp h
  have hfind' : d'.items.find? (fun y => y.1 == k) = some entry := by
    rw [hitems, List.find?_append, show d.items.find? (fun y => y.1 == k) = some entry from hfind]
    rfl
  exact congrArg (Option.map Prod.snd) hfind'

/-- What is replayed is what the session remembers. -/
theorem AfterConfigLaw.mem_replay_iff {s : Settings} {r : Request} {d : Dataset}
    {session : Session} {draws left : Draws} {fs : List Firing}
    (law : AfterConfigLaw s r d session draws fs left) {x c : String} :
    ⟨x, c, .replay⟩ ∈ fs ↔ ∃ e ∈ d.items, e.shortname = x ∧ e.RememberedIn s session c := by
  have hfilter : (⟨x, c, .replay⟩ : Firing) ∈ fs ↔
      ⟨x, c, .replay⟩ ∈ fs.filter fun f => f.selection = .replay := by simp
  rw [hfilter, law.replays.mem_iff fun _ _ _ => Entry.ReplayFires.unique]
  refine exists_congr fun e => and_congr_right fun _ => ?_
  constructor
  · rintro ⟨c', hc', hfiring⟩
    obtain ⟨rfl, rfl, -⟩ := Firing.mk.inj hfiring
    exact ⟨rfl, hc'⟩
  · rintro ⟨rfl, hc⟩
    exact ⟨c, hc, rfl⟩

/-- **Sessions decide once and remember.**  Every run obeys the law of a session's memory,
whatever the dataset, the configuration, the requester and the draws are at each call. -/
theorem session_memory_law {σ : Type} (source : Source σ) (v : Visit σ)
    (steps : List (VisitStep σ)) : MemoryLaw source v steps where
  kept := by
    rintro before after rfl key value hget
    rw [Visit.run_append]
    exact Dictionary.get?_of_items_append (Visit.session_run source _ after) hget
  writer := by
    intro w c _ hc
    have hdec := c.decides_run w.settings w.request (w.read source c).1 w.host w.draws
    refine Keyed.ext ?_
    rw [Visit.host_call, Visit.result, hdec.records, hdec.writer hc, List.map_nil,
      List.append_nil]
  written := by
    intro w c _
    have hdec := c.decides_run w.settings w.request (w.read source c).1 w.host w.draws
    exact ⟨hdec.records, hdec.source⟩
  draws := by
    intro w c _ hc
    exact (c.decides_run w.settings w.request (w.read source c).1 w.host w.draws).draws hc
  once := by
    have hkeys := (v.run source steps).host.session.distinct
    rw [Visit.session_run, List.map_append, List.map_map, List.nodup_append'] at hkeys
    obtain ⟨-, hnodup, hdisjoint⟩ := hkeys
    exact ⟨hnodup, fun x hx hmem => hdisjoint hmem (List.mem_map_of_mem hx)⟩
  replayed := by
    intro w c d _ hc hr hread
    obtain ⟨report, hanswer, hon, law⟩ := HookCall.afterConfigLaw_run hc hr d w.host w.draws
    have hcall : w.result source c = c.run w.settings w.request (.ok d) w.host w.draws := by
      rw [Visit.result, hread]
    refine ⟨report, ?_, hon, law.replays, ?_⟩
    · rw [Visit.answer_call, hcall]
      exact hanswer
    · obtain ⟨-, drawing, -, -, -, -, horder, -, hleft, -⟩ := law
      refine ⟨drawing, horder, fun e he => ?_, ?_⟩
      · obtain ⟨-, -, hs | ⟨hs, -⟩, -⟩ := (horder.2 e).mp he <;> rw [hs] <;> simp
      · rw [Visit.draws_call, hcall, hleft]

/-- A coin of the session scope is flipped after the first login and not after the second,
although the number drawn would then fall on the other side. -/
example :
    ((⟨.ok (.ofList [Entry.coin .session]), .standard, .flip "", default, .constant 1, []⟩ :
      Visit (Except StoreError Dataset)).decisions .fixed
        [.call (.evaluate .afterRequireLogin), .replaceDraws (.constant 100),
          .call (.evaluate .afterRequireLogin)]) = [⟨"abconfig_coin", "heads", 1⟩] := by
  decide

end SplitTest

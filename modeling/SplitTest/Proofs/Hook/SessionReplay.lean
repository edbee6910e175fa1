import SplitTest.Proofs.Hook.OncePerRequest
import SplitTest.Proofs.Store.Catalog

/-!
# The winner of a session

What wins a session experiment after login is written to the session
(`HookCall.get?_of_drawn`), stays there for the rest of the run (`Visit.get?_run`) and is
replayed whenever the configuration was read (`session_winner_law`).

The session keeps the winner as a text, in which the empty text says that nothing won.  But a
condset can be the empty text too: no operation of the manager refuses it.  Such a winner runs
after login and never again (`exists_winner_not_replayed`).
-/

namespace SplitTest

open SplitTest.Store

/-- A dataset has an enabled session experiment `x` with a condset `c`. -/
def Dataset.OffersInSession (d : Dataset) (x c : String) : Prop :=
  ∃ e, d.find? x = some e ∧ e.enabled = true ∧ e.scope = .session ∧ c ∈ e.conditions.keys

/-! ## Winning is remembering -/

section
variable {s : Settings} {r : Request} {d : Dataset} {session : Session} {draws : Draws}
  {x y : String} {n : Nat}

/-- A plan after login writes the condset of each firing to the session. -/
theorem Plan.get?_of_drawn
    (hf : ⟨x, y, .draw n⟩ ∈
      (Plan.afterRequireLogin s r d session draws).selected.map Selected.firing) :
    (Plan.afterRequireLogin s r d session draws).session.get? (s.sessionKey x) = some y := by
  obtain ⟨chosen, hchosen, hfiring⟩ := List.mem_map.mp hf
  obtain ⟨roll, hroll, hdrawn⟩ := List.mem_filterMap.mp hchosen
  -- the decision of the roll that fired names what fired
  have hrecord : (Entry.decides s r.requester roll).record = (s.sessionKey x, y) := by
    obtain ⟨c, -, rfl⟩ := Option.map_eq_some_iff.mp hdrawn
    obtain ⟨rfl, rfl, -⟩ := Firing.mk.inj hfiring
    simp [Entry.decides, Decision.record, decision, hdrawn]
  rw [Dictionary.get?_eq_some_iff, Plan.afterRequireLogin, items_decide, ← hrecord]
  exact List.mem_append_right _ (List.mem_map_of_mem (List.mem_map_of_mem hroll))

end

/-- **What wins after login the session holds.** -/
theorem HookCall.get?_of_drawn {c : HookCall} {s : Settings} {r : Request}
    {read : Except StoreError Dataset} {h : Host} {draws : Draws} {x y : String} {n : Nat}
    (hc : c.hook? = some .afterRequireLogin)
    (hf : ⟨x, y, .draw n⟩ ∈ (c.run s r read h draws).answer.firings) :
    (c.run s r read h draws).host.session.get? (s.sessionKey x) = some y := by
  rcases c.run_cases s r read h draws with ⟨k, device, d, hk, hg, rfl, hrun⟩ | ⟨-, hidle⟩
  · obtain rfl := Option.some.inj (hk.symm.trans hc)
    obtain ⟨report, ha, -, hfirings⟩ := run_firings d h draws hc hg
    rw [ha, HookAnswer.firings, hfirings] at hf
    rw [hrun]
    simp only [EvaluationHook.session_perform]
    exact Plan.get?_of_drawn hf
  · rw [hidle.firings] at hf
    cases hf

namespace Visit
variable {σ : Type} {source : Source σ}

/-- **A run keeps what the session holds.** -/
theorem get?_run {v : Visit σ} {key value : String} (steps : List (VisitStep σ))
    (h : v.host.session.get? key = some value) :
    (v.run source steps).host.session.get? key = some value :=
  Dictionary.get?_of_items_append (session_run source v steps) h

/-- What a call after login drew is remembered for the rest of the run. -/
theorem get?_run_of_drawn {v : Visit σ} {login : HookCall} {x y : String} {n : Nat}
    (steps : List (VisitStep σ)) (hlogin : login.hook? = some .afterRequireLogin)
    (hwon : ⟨x, y, .draw n⟩ ∈ (v.call source login).1.firings) :
    (v.run source (.call login :: steps)).host.session.get? (v.settings.sessionKey x) =
      some y :=
  get?_run steps (HookCall.get?_of_drawn hlogin hwon)

end Visit

/-! ## Remembering is replaying -/

/-- **A session replays the one condset that it holds for an experiment**, unless that is the
empty text. -/
theorem HookCall.replays_of_get? {c : HookCall} {s : Settings} {r : Request} {d : Dataset}
    {h : Host} {draws : Draws} {x y : String} (hc : c.hook? = some .afterConfig)
    (hon : r.adminDisabled s = false) (hd : d.OffersInSession x y)
    (hheld : h.session.get? (s.sessionKey x) = some y) :
    ∃ report, (c.run s r (.ok d) h draws).answer = .report report ∧
      (⟨x, y, .replay⟩ ∈ report.firings ↔ y ≠ "") ∧
      ∀ z, ⟨x, z, .replay⟩ ∈ report.firings → z = y := by
  obtain ⟨report, ha, -, law⟩ := HookCall.afterConfigLaw_run hc hon d h draws
  obtain ⟨e, he, hen, hscope, hy⟩ := hd
  obtain ⟨hmem, rfl⟩ := Keyed.find?_eq_some_iff.mp he
  refine ⟨report, ha, ?_, fun z hz => ?_⟩
  · rw [law.mem_replay_iff]
    constructor
    · rintro ⟨e', -, -, -, -, -, hne, -⟩
      exact hne
    · intro hne
      exact ⟨e, hmem, rfl, hen, hscope, hheld, hne, hy⟩
  · obtain ⟨e', -, hname, -, -, hz, -⟩ := law.mem_replay_iff.mp hz
    rw [hname] at hz
    exact Option.some.inj (hz.symm.trans hheld)

/-- **The winner of a session is replayed exactly if it has a name.**  Whatever happens in the
session after a call after login reported that a draw fell on the condset `y`, a later call once
the configuration was read replays `y`, and nothing else, as long as the experiment takes place
and has the condset; only a winner named by the empty text is not replayed. -/
theorem session_winner_law {σ : Type} (source : Source σ) (v : Visit σ) (login config : HookCall)
    (steps : List (VisitStep σ)) (x y : String) (n : Nat) (d : Dataset)
    (hlogin : login.hook? = some .afterRequireLogin)
    (hwon : ⟨x, y, .draw n⟩ ∈ (v.call source login).1.firings)
    (hconfig : config.hook? = some .afterConfig)
    (hon : (v.run source (.call login :: steps)).request.adminDisabled v.settings = false)
    (hread : ((v.run source (.call login :: steps)).read source config).1 = .ok d)
    (hd : d.OffersInSession x y) :
    ∃ report,
      ((v.run source (.call login :: steps)).call source config).1 = .report report ∧
        (⟨x, y, .replay⟩ ∈ report.firings ↔ y ≠ "") ∧
        ∀ z, ⟨x, z, .replay⟩ ∈ report.firings → z = y := by
  have hheld := Visit.get?_run_of_drawn steps hlogin hwon
  have hsettings : (v.run source (.call login :: steps)).settings = v.settings :=
    Visit.settings_run _ v
  rw [← hsettings] at hheld hon
  rw [Visit.answer_call, Visit.result, hread]
  exact HookCall.replays_of_get? hconfig hon hd hheld

/-- A coin that showed heads after login shows heads at every later request, although the
numbers drawn since then fall on tails. -/
theorem coin_winner_replayed :
    ∃ report,
      (((Visit.ofCoin .session (.flip "")).run .fixed
          [.call (.evaluate .afterRequireLogin), .replaceDraws (.constant 100),
            .begin (.flip "tails") .empty, .call (.evaluate .afterRequireLogin)]).call .fixed
              (.evaluate .afterConfig)).1 = .report report ∧
        (⟨"coin", "heads", .replay⟩ ∈ report.firings ↔ "heads" ≠ "") ∧
        ∀ z, ⟨"coin", z, .replay⟩ ∈ report.firings → z = "heads" :=
  session_winner_law .fixed (Visit.ofCoin .session (.flip "")) (.evaluate .afterRequireLogin)
    (.evaluate .afterConfig) _ "coin" "heads" 1 (.ofList [Entry.coin .session]) rfl (by decide)
    rfl rfl rfl ⟨Entry.coin .session, rfl, rfl, rfl, by decide⟩

/-- A manager to which an operator gave a session experiment that always falls on the condset
with the empty name. -/
def Store.Manager.nameless : Manager :=
  Manager.empty.after
    [.addExperiment "Coin" "coin" .session 0, .addCondition ⟨1⟩ ⟨"", "", "", 100, []⟩,
      .updateExperiment "coin" ⟨"Coin", "coin", .session, true, false, 0⟩]

/-- **A winner can be forgotten**, of a dataset that a manager accepted. -/
theorem exists_winner_not_replayed :
    ¬∀ (calls : List ManagerCall) (v : Visit Manager) (x y : String) (n : Nat) (d : Dataset),
      v.source = Manager.empty.after calls →
      let w := (v.call .ofManager (.evaluate .afterRequireLogin)).2
      ⟨x, y, .draw n⟩ ∈ (v.call .ofManager (.evaluate .afterRequireLogin)).1.firings →
      w.request.adminDisabled w.settings = false →
      (w.read .ofManager (.evaluate .afterConfig)).1 = .ok d → d.OffersInSession x y →
        ⟨x, y, .replay⟩ ∈ (w.call .ofManager (.evaluate .afterConfig)).1.firings := by
  intro hall
  have hreplayed := hall _ ⟨.nameless, .standard, .flip "", default, .constant 1, []⟩ "coin" "" 1
    _ rfl (by decide) rfl rfl ⟨_, rfl, rfl, rfl, by decide⟩
  revert hreplayed
  decide

end SplitTest

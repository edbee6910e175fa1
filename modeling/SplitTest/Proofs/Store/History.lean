import SplitTest.Proofs.Hook.Run
import SplitTest.Proofs.Store.Frame
import Mathlib.Data.List.Induction

/-!
# Histories of a manager

A history is everything that can happen to a manager, in any order: the calls of operators,
whatever is looked up in it, and hooks that read their dataset from it.  A hook may be
called on any host and for any request (`Occasion`); of all that only the manager is carried
on to the next step.

Through any history the manager of a new store stands for a catalog
(`Manager.serves_through`): a call changes the catalog as it says, and nothing else does
(`Manager.Serves.follow`).  What every call of the store preserves is preserved by every
step (`Manager.step_within`).
-/

namespace SplitTest.Store

/-! ## Steps -/

/-- What is looked up in a manager. -/
inductive ManagerQuery where
  | experiment (id : ExperimentId)
  | experimentExists (shortname : String)
  | conditionExists (id : ExperimentId) (condset : String)
  | conditions (id : ExperimentId)
  | dataset
deriving DecidableEq

/-- What a hook finds when it is called, besides the manager from which it reads. -/
structure Occasion where
  settings : Settings
  request : Request
  host : Host
  draws : Draws

/-- The visit in which a hook is called on an occasion. -/
def Occasion.visit (o : Occasion) (m : Manager) : Visit Manager :=
  ⟨m, o.settings, o.request, o.host, o.draws, []⟩

/-- A step of a history. -/
inductive ManagerStep where
  | call (call : ManagerCall)
  | query (q : ManagerQuery)
  | hook (o : Occasion) (c : HookCall)

namespace Manager

/-- The manager of a new store, however it is set up. -/
def fresh (lifetime : Option Nat) (sink : AuditSink) (overlap : Bool) : Manager :=
  { empty with lifetime := lifetime, sink := sink, overlap := overlap }

/-- The manager after something was looked up in it. -/
def queried (m : Manager) : ManagerQuery → Manager
  | .experiment id => ((Action.experiment? id).runOn m).2
  | .experimentExists shortname => ((Action.experimentExists shortname).runOn m).2
  | .conditionExists id condset => ((Action.conditionExists id condset).runOn m).2
  | .conditions id => ((Action.conditionsByName id).runOn m).2
  | .dataset => m.dataset.2

/-- The manager after a step. -/
def step (m : Manager) : ManagerStep → Manager
  | .call call => (call.action.runOn m).2
  | .query q => m.queried q
  | .hook o c => ((o.visit m).call Source.ofManager c).2.source

/-- The manager after a history. -/
def through (m : Manager) (steps : List ManagerStep) : Manager := steps.foldl step m

/-- What the steps of a history give, in order. -/
def collect {α : Type} (f : Manager → ManagerStep → Option α) (m : Manager) :
    List ManagerStep → List α
  | [] => []
  | s :: steps => (f m s).toList ++ collect f (m.step s) steps

/-- A hook leaves what reading leaves. -/
theorem step_hook (m : Manager) (o : Occasion) (c : HookCall) :
    m.step (.hook o c) = ((o.visit m).read Source.ofManager c).2.2 := rfl

@[simp] theorem through_nil (m : Manager) : m.through [] = m := rfl

@[simp] theorem through_concat (m : Manager) (steps : List ManagerStep) (s : ManagerStep) :
    m.through (steps ++ [s]) = (m.through steps).step s :=
  List.foldl_concat step m s steps

theorem collect_concat {α : Type} (f : Manager → ManagerStep → Option α) (steps : List ManagerStep)
    (s : ManagerStep) : ∀ m : Manager,
      collect f m (steps ++ [s]) = collect f m steps ++ (f (m.through steps) s).toList := by
  induction steps with
  | nil =>
    intro m
    simp only [List.nil_append, collect, List.append_nil, through_nil]
  | cons s' steps ih =>
    intro m
    rw [List.cons_append, collect, ih, collect, List.append_assoc]
    rfl

end Manager

/-! ## What steps stay within -/

namespace Manager
variable {R : Manager → Manager → Prop} {m : Manager}

theorem queried_within (hR : ReadFrame R) (q : ManagerQuery) : R m (m.queried q) := by
  cases q with
  | experiment id => exact Action.within_ask hR _ _ m
  | experimentExists shortname => exact Action.within_experimentExists hR shortname m
  | conditionExists id condset => exact Action.within_conditionExists hR id condset m
  | conditions id => exact Action.within_conditionsByName hR id m
  | dataset =>
    have hm := Action.within_snapshot hR m
    show R m m.dataset.2
    rw [dataset]
    cases hrun : Action.snapshot.runOn m with
    | mk r m' =>
      rw [hrun] at hm
      cases r with
      | ok d => exact hm
      | error e => exact hR.trans hm (hR.aside m' m'.cache m'.overlap _)

theorem hook_within (hR : ReadFrame R) (o : Occasion) (c : HookCall) :
    R m (m.step (.hook o c)) := by
  rw [step_hook, Visit.read]
  split
  · -- the events of reading are taken off, and those of the manager put back
    have hread := Action.within_snapshot hR { m with events := [] }
    have hm := hR.trans (hR.aside m m.cache m.overlap []) hread
    exact hR.trans hm (hR.aside _ _ _ m.events)
  · exact hR.refl m

/-- What an operation stays within, the call that asks for it does. -/
theorem call_within {α : Type} {act : Action α} {call : ManagerCall} (hR : ReadFrame R)
    (hact : act.Within R) (answer : α → ManagerAnswer)
    (haction : call.action = act >>= fun a => pure (answer a)) : R m (m.step (.call call)) := by
  show R m (call.action.runOn m).2
  rw [haction]
  exact Action.within_bind hR hact (fun a => Action.within_pure hR (answer a)) m

/-- Only the addition or the update of a condition is more than calls of the store. -/
theorem step_within_of_no_write (hR : WriteFrame R) {s : ManagerStep}
    (hadd : ∀ id input, s ≠ .call (.addCondition id input))
    (hupdate : ∀ id previous input, s ≠ .call (.updateCondition id previous input)) :
    R m (m.step s) := by
  have hread := hR.toReadFrame
  cases s with
  | query q => exact queried_within hread q
  | hook o c => exact hook_within hread o c
  | call call =>
    cases call with
    | addExperiment name shortname scope offset =>
      exact call_within hread (Action.within_addExperiment hR name shortname scope offset)
        .experiment rfl
    | updateExperiment previous u =>
      exact call_within hread (Action.within_updateExperiment hR previous u) (fun _ => .done) rfl
    | deleteExperiment shortname =>
      exact call_within hread (Action.within_deleteExperiment hR shortname) (fun _ => .done) rfl
    | addCondition id input => exact absurd rfl (hadd id input)
    | updateCondition id previous input => exact absurd rfl (hupdate id previous input)
    | deleteCondition id condset =>
      exact call_within hread (Action.within_deleteCondition hR id condset) (fun _ => .done) rfl
    | deleteAllConditions id =>
      exact call_within hread (Action.within_deleteAllConditions hR id) (fun _ => .done) rfl
    | snapshot =>
      exact call_within hread (Action.within_snapshot hread)
        (fun d => .listings (Listing.ofDataset d)) rfl
    | invalidate => exact hR.aside m m.cache.invalidate m.overlap m.events

/-- **What every call of the store preserves, every step preserves.** -/
theorem step_within (hR : WriteFrame R) (hrecord : ∀ m entry, R m (m.record entry))
    (s : ManagerStep) : R m (m.step s) := by
  by_cases hadd : ∃ id input, s = .call (.addCondition id input)
  · obtain ⟨id, input, rfl⟩ := hadd
    exact call_within hR.toReadFrame (Action.within_addCondition hR hrecord id input) .condition rfl
  by_cases hupdate : ∃ id previous input, s = .call (.updateCondition id previous input)
  · obtain ⟨id, previous, input, rfl⟩ := hupdate
    exact call_within hR.toReadFrame (Action.within_updateCondition hR hrecord id previous input)
      (fun _ => .done) rfl
  · exact step_within_of_no_write hR (fun id input h => hadd ⟨id, input, h⟩)
      fun id previous input h => hupdate ⟨id, previous, input, h⟩

end Manager

/-! ## Histories and catalogs -/

/-- The catalog after a step: only calls change it. -/
def Catalog.follow (c : Catalog) : ManagerStep → Catalog
  | .call call => c.next call
  | _ => c

namespace Manager.Serves
variable {m : Manager} {c : Catalog}

theorem withEvents (h : m.Serves c) (events : List Event) : { m with events := events }.Serves c :=
  ⟨h.outages, h.managed, h.catalog, h.cached⟩

/-- **A hook reads the dataset of the catalog**, and reading changes nothing that can be
seen. -/
theorem ofManager (h : m.Serves c) :
    ∃ d events m', Source.ofManager m = (.ok d, events, m') ∧
      Listing.ofDataset d = c.listings ∧ m'.Serves c := by
  obtain ⟨d, m', hrun, hd, hserves⟩ := (h.withEvents []).snapshot
  refine ⟨d, m'.events, { m' with events := m.events }, ?_, hd, hserves.withEvents m.events⟩
  rw [Source.ofManager, hrun]

theorem queried (h : m.Serves c) (q : ManagerQuery) : (m.queried q).Serves c := by
  have ho := h.outages
  cases q with
  | experiment id =>
    have hrun : (Action.experiment? id).runOn m = (.ok (m.tables.experiment? id), m) :=
      Action.runOn_ask ho _ _
    rw [Manager.queried, hrun]
    exact h
  | experimentExists shortname =>
    rw [Manager.queried, Action.runOn_experimentExists ho]
    exact h
  | conditionExists id condset =>
    rw [Manager.queried, Action.runOn_conditionExists ho]
    exact h
  | conditions id =>
    have hask : (Action.conditionsOf id).runOn m = (.ok (m.tables.conditionsOf id), m) :=
      Action.runOn_ask ho _ _
    obtain ⟨events, hdecode⟩ := Action.runOn_decodeAll (m := m) (m.tables.conditionsOf id)
      fun r hr => h.managed.readable r (Tables.mem_conditionsOf_iff.mp hr).1
    rw [Manager.queried, Action.conditionsByName, Action.runOn_bind_of_ok hask,
      Action.runOn_bind_of_ok hdecode]
    exact h.withEvents events
  | dataset =>
    obtain ⟨d, m', hrun, -, hserves⟩ := h.snapshot
    rw [Manager.queried, Manager.dataset, hrun]
    exact hserves

/-- **Through a step a manager goes on to serve its catalog**, which only calls change. -/
theorem follow (h : m.Serves c) (s : ManagerStep) : (m.step s).Serves (c.follow s) := by
  cases s with
  | call call => exact (h.step call).2
  | query q => exact h.queried q
  | hook o hook =>
    rw [Manager.step_hook, Visit.read]
    split
    · obtain ⟨d, events, m', hread, -, hserves⟩ := h.ofManager
      show (Source.ofManager m).2.2.Serves c
      rw [hread]
      exact hserves
    · exact h

end Manager.Serves

/-- **Through any history a manager stands for the catalog of its tables.** -/
theorem Manager.serves_through (lifetime : Option Nat) (sink : AuditSink) (overlap : Bool)
    (steps : List ManagerStep) :
    let m := (Manager.fresh lifetime sink overlap).through steps
    m.Serves m.tables.catalog := by
  intro m
  have hserves : ∃ c, m.Serves c := by
    induction steps using List.reverseRecOn with
    | nil => exact ⟨.empty, Manager.Serves.ofEmpty lifetime sink overlap⟩
    | append_singleton steps s ih =>
      obtain ⟨c, hc⟩ := ih
      have hstep := hc.follow s
      rw [← Manager.through_concat] at hstep
      exact ⟨c.follow s, hstep⟩
  obtain ⟨c, hc⟩ := hserves
  have hcatalog := hc.catalog
  rw [hcatalog]
  exact hc

end SplitTest.Store

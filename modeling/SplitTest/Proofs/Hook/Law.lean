import SplitTest.Hook.Report
import SplitTest.Hook.Plan
import SplitTest.Proofs.Keyed
import SplitTest.Proofs.Selection

/-!
# The law of selection

When an experiment fires, and with which of its conditions, said of the dataset, the
request, the session and the number drawn alone:

* a request asks for a condition (`Request.AsksFor`, `Request.AsksDevice`);
* an experiment takes part in the draws (`Entry.DrawsFor`), and its number falls on a
  condition (`Entry.DrawFallsOn`), or the bucket of the device does
  (`Entry.BucketFallsOn`);
* a session remembers a condition (`Entry.RememberedIn`).

`FiringsOf` turns such a relation into the firings of a whole list, one for each element
that has one and in the order of the list.  Each relation is decided by a function that
the hooks use, and the lemmas below say which.
-/

namespace SplitTest

/-- The firings of the elements that have one, in order. -/
inductive FiringsOf {α : Type} (Fires : α → Firing → Prop) : List α → List Firing → Prop where
  | nil : FiringsOf Fires [] []
  | fires {a : α} {f : Firing} {as : List α} {fs : List Firing} :
      Fires a f → FiringsOf Fires as fs → FiringsOf Fires (a :: as) (f :: fs)
  | silent {a : α} {as : List α} {fs : List Firing} :
      (∀ f, ¬Fires a f) → FiringsOf Fires as fs → FiringsOf Fires (a :: as) fs

/-- The weight of the conditions of a list that count. -/
def weightOf (counts : Condition → Bool) (cs : List Condition) : Nat :=
  ((cs.filter counts).map Condition.weight).sum

/-! ## Asking -/

namespace Request

/-- Once the configuration was read a request asks for the condset `c` of an experiment
that is enabled and outside the device scope: in a shell by the environment, for a
browser by the parameters of an administrator. -/
def AsksFor (r : Request) (s : Settings) (e : Entry) (c : String) : Prop :=
  e.enabled = true ∧ e.scope ≠ .device ∧ c ≠ "" ∧ c ∈ e.conditions.keys ∧
    match r.mode with
    | .cli => r.env.get? (s.envVar e.shortname) = some c
    | .web => r.requester.isAdmin = true ∧ r.params.get? e.shortname = some c

/-- Before the session a request asks for the condset `c` of an enabled device
experiment: by a parameter, whoever makes it. -/
def AsksDevice (r : Request) (e : Entry) (c : String) : Prop :=
  e.enabled = true ∧ e.scope = .device ∧ c ≠ "" ∧ c ∈ e.conditions.keys ∧
    r.params.get? e.shortname = some c

end Request

/-! ## Drawing -/

/-- A condition is open to a requester: it names no users or the requester's, and the
address is not exempt from it. -/
def Condition.OpenTo (c : Condition) (r : Requester) : Prop :=
  (c.users.ids = [] ∨ ∃ user ∈ c.users.ids, r.userId = some user) ∧
    c.allowList.containsClient r.address = false

instance (c : Condition) (r : Requester) : Decidable (c.OpenTo r) :=
  inferInstanceAs (Decidable (_ ∧ _))

namespace Entry

/-- An experiment applies to a requester: it is open to administrators, or the requester
is none. -/
def AdmitsTo (e : Entry) (r : Requester) : Prop :=
  e.experiment.adminEnabled = true ∨ r.isAdmin = false

/-- An experiment takes part in the draws once the configuration was read. -/
def DrawsFor (e : Entry) (s : Settings) (r : Request) : Prop :=
  e.enabled = true ∧
    (e.scope = .request ∨ e.scope = .afterConfig ∧ ∀ c, ¬r.AsksFor s e c) ∧
    e.AdmitsTo r.requester

/-- The number `n` falls on the condition `c`: it is open to the requester, and `n` lies
in its share, which begins behind those of the open conditions before it. -/
def DrawFallsOn (e : Entry) (r : Requester) (n : Nat) (c : Condition) : Prop :=
  ∃ before after, e.conditions.items = before ++ c :: after ∧ c.OpenTo r ∧
    weightOf (fun x => x.OpenTo r) before < n ∧
    n ≤ weightOf (fun x => x.OpenTo r) before + c.weight

/-- The bucket `n` falls on the condition `c`: the address is not exempt from it, and `n`
lies in its share, which begins behind those of the conditions before it from which the
address is not exempt either. -/
def BucketFallsOn (e : Entry) (address : Option String) (n : Nat) (c : Condition) : Prop :=
  ∃ before after, e.conditions.items = before ++ c :: after ∧
    c.allowList.containsClient address = false ∧
    weightOf (fun x => !x.allowList.containsClient address) before ≤ n ∧
    n < weightOf (fun x => !x.allowList.containsClient address) before + c.weight

/-- A session remembers the condset `c` for an enabled session experiment. -/
def RememberedIn (e : Entry) (s : Settings) (session : Session) (c : String) : Prop :=
  e.enabled = true ∧ e.scope = .session ∧
    session.get? (s.sessionKey e.shortname) = some c ∧ c ≠ "" ∧ c ∈ e.conditions.keys

end Entry

/-- The experiments that draw once the configuration was read, in stored order. -/
def DrawOrder (s : Settings) (r : Request) (d : Dataset) (es : List Entry) : Prop :=
  es.Sublist d.items ∧ ∀ e, e ∈ es ↔ e ∈ d.items ∧ e.DrawsFor s r

/-! ## The firings that follow -/

/-- The firing by which a request overrides an experiment once the configuration was
read. -/
def Request.OverrideFires (r : Request) (s : Settings) (e : Entry) (f : Firing) : Prop :=
  ∃ c, r.AsksFor s e c ∧ f = ⟨e.shortname, c, .byOverride⟩

/-- The firing by which a request overrides a device experiment. -/
def Request.DeviceOverrideFires (r : Request) (e : Entry) (f : Firing) : Prop :=
  ∃ c, r.AsksDevice e c ∧ f = ⟨e.shortname, c, .byOverride⟩

/-- The firing of an experiment that takes the draw at a place. -/
def Draws.Fires (draws : Draws) (r : Requester) (roll : Entry × Nat) (f : Firing) : Prop :=
  let n := draws.values (draws.rolls + roll.2)
  ∃ c, roll.1.DrawFallsOn r n c ∧ f = ⟨roll.1.shortname, c.condset, .draw n⟩

/-- The firing of a device experiment for the bucket of a device. -/
def Entry.HashFires (device : Device.Fingerprint) (address : Option String) (e : Entry)
    (f : Firing) : Prop :=
  let n := device.bucket e.experiment.numericOffset
  e.enabled = true ∧ e.scope = .device ∧
    ∃ c, e.BucketFallsOn address n c ∧ f = ⟨e.shortname, c.condset, .hash n⟩

/-- The firing of an experiment that a session remembers. -/
def Entry.ReplayFires (s : Settings) (session : Session) (e : Entry) (f : Firing) : Prop :=
  ∃ c, e.RememberedIn s session c ∧ f = ⟨e.shortname, c, .replay⟩

/-- An enabled experiment of two conditions with half of the draws each. -/
def Entry.coin (sc : Scope) : Entry where
  experiment := ⟨⟨1⟩, "Coin", "coin", sc, true, false, 0⟩
  conditions := .ofList
    [⟨⟨1⟩, ⟨1⟩, "heads", .parse "", ⟨[]⟩, 50, .empty⟩,
      ⟨⟨2⟩, ⟨1⟩, "tails", .parse "", ⟨[]⟩, 50, .empty⟩]

/-- A guest in a shell whose environment asks for the condset `c` of a coin. -/
def Request.flip (c : String) : Request where
  requester := ⟨some "192.0.2.1", some "ua", none, false⟩
  mode := .cli
  params := .empty
  env := .ofList [("ABCONFIG_COIN", c)]

/-- A user browses, as an administrator or not. -/
def Request.browse (isAdmin : Bool) : Request where
  requester := ⟨some "192.0.2.1", some "ua", some 2, isAdmin⟩
  mode := .web
  params := .empty
  env := .empty

/-! ## What decides them -/

theorem Entry.isSome_condition?_iff {e : Entry} {c : String} :
    (e.condition? c).isSome = true ↔ c ∈ e.conditions.keys :=
  Keyed.isSome_find?_iff

theorem Entry.override?_eq_some_iff {e : Entry} {asked : Option String} {c : String} :
    e.override? asked = some c ↔ c ≠ "" ∧ c ∈ e.conditions.keys ∧ asked = some c := by
  simp only [Entry.override?, Option.filter_eq_some_iff, Bool.and_eq_true, bne_iff_ne,
    Entry.isSome_condition?_iff]
  exact ⟨fun ⟨ha, hc, hk⟩ => ⟨hc, hk, ha⟩, fun ⟨hc, hk, ha⟩ => ⟨ha, hc, hk⟩⟩

theorem Request.askedAfterConfig_eq_some_iff {r : Request} {s : Settings} {x c : String} :
    r.askedAfterConfig s x = some c ↔
      match r.mode with
      | .cli => r.env.get? (s.envVar x) = some c
      | .web => r.requester.isAdmin = true ∧ r.params.get? x = some c := by
  unfold Request.askedAfterConfig
  cases r.mode with
  | cli => rfl
  | web => cases r.requester.isAdmin <;> simp [Request.param?]

/-- What overrides an experiment among those that can be. -/
theorem Request.asksFor_iff {r : Request} {s : Settings} {e : Entry} {c : String} :
    r.AsksFor s e c ↔ (e.enabled && e.scope != .device) = true ∧
      e.override? (r.askedAfterConfig s e.shortname) = some c := by
  rw [Entry.override?_eq_some_iff, Request.askedAfterConfig_eq_some_iff, Bool.and_eq_true,
    bne_iff_ne, and_assoc]
  rfl

theorem Request.asksDevice_iff {r : Request} {e : Entry} {c : String} :
    r.AsksDevice e c ↔ (e.enabled && e.scope == .device) = true ∧
      e.override? (r.param? e.shortname) = some c := by
  rw [Entry.override?_eq_some_iff, Bool.and_eq_true, beq_iff_eq, and_assoc]
  rfl

theorem Condition.isEligible_eq_openTo {c : Condition} {sc : Scope} {r : Requester}
    (h : sc ≠ .device) : c.isEligible sc r = Decidable.decide (c.OpenTo r) := by
  have husers : c.users.targets r.userId = true ↔
      (c.users.ids = [] ∨ ∃ user ∈ c.users.ids, r.userId = some user) := by
    cases hu : r.userId <;>
      simp [UserSet.targets, UserSet.isEmpty, UserSet.contains, List.isEmpty_iff]
  have hs : sc.userTargeting = true := by simp [Scope.userTargeting, h]
  rw [Bool.eq_iff_iff, decide_eq_true_iff]
  simp only [Condition.isEligible, hs, Bool.not_true, Bool.false_or, Bool.and_eq_true,
    Bool.not_eq_true', husers, Condition.OpenTo]

theorem Condition.isEligible_device {c : Condition} {r : Requester} :
    c.isEligible .device r = !c.allowList.containsClient r.address := by
  simp [Condition.isEligible, Scope.userTargeting]

namespace Entry

theorem appliesTo_iff {e : Entry} {r : Requester} (h : e.scope ≠ .device) :
    e.experiment.appliesTo r = true ↔ e.AdmitsTo r := by
  have hs : e.experiment.scope.adminImmune = true := bne_iff_ne.mpr h
  cases ha : r.isAdmin <;> cases he : e.experiment.adminEnabled <;>
    simp [Experiment.appliesTo, AdmitsTo, hs, ha, he]

theorem select_uniform_eq_some_iff {e : Entry} {r : Requester} {n : Nat} {c : Condition}
    (h : e.scope ≠ .device) :
    (Selector.uniform n).select Condition.weight (e.eligible r) = some c ↔
      e.DrawFallsOn r n c := by
  have he : e.eligible r = e.conditions.items.filter fun x => x.OpenTo r :=
    List.filter_congr fun x _ => Condition.isEligible_eq_openTo h
  rw [he, Selector.select_filter_eq_some_iff]
  simp only [decide_eq_true_eq, Selector.hits_uniform_iff]
  rfl

theorem select_stable_eq_some_iff {e : Entry} {r : Requester} {n : Nat} {c : Condition}
    (h : e.scope = .device) :
    (Selector.stable n).select Condition.weight (e.eligible r) = some c ↔
      e.BucketFallsOn r.address n c := by
  have he : e.eligible r =
      e.conditions.items.filter fun x => !x.allowList.containsClient r.address :=
    List.filter_congr fun x _ => by rw [h, Condition.isEligible_device]
  rw [he, Selector.select_filter_eq_some_iff]
  simp only [Bool.not_eq_true', Selector.hits_stable_iff]
  rfl

/-- A number falls on one condition at most. -/
theorem DrawFallsOn.unique {e : Entry} {r : Requester} {n : Nat} {c c' : Condition}
    (h : e.DrawFallsOn r n c) (h' : e.DrawFallsOn r n c') : c = c' := by
  have hselect (x : Condition) (hx : e.DrawFallsOn r n x) :
      (Selector.uniform n).select Condition.weight
        (e.conditions.items.filter fun y => y.OpenTo r) = some x := by
    rw [Selector.select_filter_eq_some_iff]
    simp only [decide_eq_true_eq, Selector.hits_uniform_iff]
    exact hx
  exact Option.some.inj ((hselect c h).symm.trans (hselect c' h'))

/-- A bucket falls on one condition at most. -/
theorem BucketFallsOn.unique {e : Entry} {address : Option String} {n : Nat} {c c' : Condition}
    (h : e.BucketFallsOn address n c) (h' : e.BucketFallsOn address n c') : c = c' := by
  have hselect (x : Condition) (hx : e.BucketFallsOn address n x) :
      (Selector.stable n).select Condition.weight
        (e.conditions.items.filter fun y => !y.allowList.containsClient address) = some x := by
    rw [Selector.select_filter_eq_some_iff]
    simp only [Bool.not_eq_true', Selector.hits_stable_iff]
    exact hx
  exact Option.some.inj ((hselect c h).symm.trans (hselect c' h'))

/-- A device experiment has one firing at most. -/
theorem HashFires.unique {device : Device.Fingerprint} {address : Option String} {e : Entry}
    {f g : Firing} (hf : e.HashFires device address f) (hg : e.HashFires device address g) :
    f = g := by
  obtain ⟨-, -, c, hc, rfl⟩ := hf
  obtain ⟨-, -, c', hc', rfl⟩ := hg
  rw [hc.unique hc']

/-- An experiment has one replay at most. -/
theorem ReplayFires.unique {s : Settings} {session : Session} {e : Entry} {f g : Firing}
    (hf : e.ReplayFires s session f) (hg : e.ReplayFires s session g) : f = g := by
  obtain ⟨c, ⟨-, -, hc, -⟩, rfl⟩ := hf
  obtain ⟨c', ⟨-, -, hc', -⟩, rfl⟩ := hg
  rw [Option.some.inj (hc.symm.trans hc')]

end Entry

theorem memo?_eq_some_iff {s : Settings} {session : Session} {x c : String} :
    memo? s session x = some c ↔ session.get? (s.sessionKey x) = some c ∧ c ≠ "" := by
  simp [memo?, Option.filter_eq_some_iff]

theorem Dataset.mem_activeIn_iff {d : Dataset} {sc : Scope} {e : Entry} :
    e ∈ d.activeIn sc ↔ e ∈ d.items ∧ e.enabled = true ∧ e.scope = sc := by
  rw [activeIn, List.mem_filter, Bool.and_eq_true, beq_iff_eq]

/-- The experiments that a session decides for a requester. -/
theorem mem_undecided_iff {s : Settings} {q : Requester} {session : Session} {d : Dataset}
    {e : Entry} :
    e ∈ undecided s q session d ↔ e ∈ d.items ∧ (e.enabled = true ∧ e.scope = .session) ∧
      e.AdmitsTo q ∧ session.contains (s.sessionKey e.shortname) = false := by
  rw [undecided, List.mem_filter, Dataset.mem_activeIn_iff, Bool.and_eq_true,
    Bool.not_eq_true', and_assoc]
  refine and_congr_right fun _ => and_congr_right fun hs => ?_
  rw [Entry.appliesTo_iff (by rw [hs.2]; simp)]

theorem undecided_sublist {s : Settings} {q : Requester} {session : Session} {d : Dataset} :
    (undecided s q session d).Sublist d.items :=
  List.filter_sublist.trans List.filter_sublist

/-! ## Lists of firings -/

namespace FiringsOf
variable {α : Type} {Fires : α → Firing → Prop} {as : List α} {fs : List Firing}

theorem exists_of_mem (h : FiringsOf Fires as fs) {f : Firing} (hf : f ∈ fs) :
    ∃ a ∈ as, Fires a f := by
  induction h with
  | nil => cases hf
  | @fires a g as fs hg _ ih =>
    rcases List.mem_cons.mp hf with rfl | hf
    · exact ⟨a, List.mem_cons_self, hg⟩
    · obtain ⟨b, hb, hbf⟩ := ih hf
      exact ⟨b, List.mem_cons_of_mem a hb, hbf⟩
  | @silent a as fs _ _ ih =>
    obtain ⟨b, hb, hbf⟩ := ih hf
    exact ⟨b, List.mem_cons_of_mem a hb, hbf⟩

theorem exists_mem (h : FiringsOf Fires as fs) {a : α} {f : Firing} (ha : a ∈ as)
    (hf : Fires a f) : ∃ g ∈ fs, Fires a g := by
  induction h with
  | nil => cases ha
  | @fires b g as fs hg _ ih =>
    rcases List.mem_cons.mp ha with rfl | ha
    · exact ⟨g, List.mem_cons_self, hg⟩
    · obtain ⟨g', hg', hag'⟩ := ih ha
      exact ⟨g', List.mem_cons_of_mem g hg', hag'⟩
  | @silent b as fs hsilent _ ih =>
    rcases List.mem_cons.mp ha with rfl | ha
    · exact absurd hf (hsilent f)
    · exact ih ha

/-- A test that every firing passes keeps them, and one that every firing fails drops them. -/
theorem filter_eq (h : FiringsOf Fires as fs) {p : Firing → Bool} {b : Bool}
    (hp : ∀ a f, Fires a f → p f = b) : fs.filter p = if b then fs else [] := by
  have hall : ∀ f ∈ fs, p f = b := fun f hf =>
    have ⟨a, _, haf⟩ := h.exists_of_mem hf
    hp a f haf
  cases b with
  | true => exact List.filter_eq_self.mpr hall
  | false => exact List.filter_eq_nil_iff.mpr fun f hf => by simp [hall f hf]

/-- Nothing fires exactly if no element has a firing. -/
theorem eq_nil_iff (h : FiringsOf Fires as fs) : fs = [] ↔ ∀ a ∈ as, ∀ f, ¬Fires a f := by
  rw [List.eq_nil_iff_forall_not_mem]
  constructor
  · intro hno a ha f hf
    obtain ⟨g, hg, -⟩ := h.exists_mem ha hf
    exact hno g hg
  · intro hno f hf
    obtain ⟨a, ha, hfires⟩ := h.exists_of_mem hf
    exact hno a ha f hfires

/-- **One list of firings at most belongs to a list**, if each element has one firing at
most. -/
theorem unique (hone : ∀ a f g, Fires a f → Fires a g → f = g) (h : FiringsOf Fires as fs) :
    ∀ {gs : List Firing}, FiringsOf Fires as gs → fs = gs := by
  induction h with
  | nil =>
    rintro gs ⟨⟩
    rfl
  | @fires a f as fs hf _ ih =>
    rintro gs (_ | ⟨hg, hgs⟩ | ⟨hsilent, -⟩)
    · rw [hone a _ _ hf hg, ih hgs]
    · exact absurd hf (hsilent f)
  | @silent a as fs hsilent _ ih =>
    rintro gs (_ | ⟨hg, -⟩ | ⟨-, hgs⟩)
    · exact absurd hg (hsilent _)
    · exact ih hgs

/-- What fires is what fires for some element, if each element has one firing at most. -/
theorem mem_iff (h : FiringsOf Fires as fs) (hone : ∀ a f g, Fires a f → Fires a g → f = g)
    {f : Firing} : f ∈ fs ↔ ∃ a ∈ as, Fires a f := by
  refine ⟨h.exists_of_mem, ?_⟩
  rintro ⟨a, ha, hf⟩
  obtain ⟨g, hg, hag⟩ := h.exists_mem ha hf
  rwa [hone a f g hf hag]

/-- The names of the firings are among those of the elements, in the same order. -/
theorem sublist_map (h : FiringsOf Fires as fs) {name : α → String}
    (hname : ∀ a f, Fires a f → f.experiment = name a) :
    (fs.map Firing.experiment).Sublist (as.map name) := by
  induction h with
  | nil => exact .slnil
  | @fires a f as fs hf _ ih =>
    rw [List.map_cons, List.map_cons, hname a f hf]
    exact ih.cons_cons (name a)
  | @silent a as fs _ _ ih => exact ih.cons (name a)

theorem mem_map_iff (h : FiringsOf Fires as fs) {name : α → String}
    (hname : ∀ a f, Fires a f → f.experiment = name a) {x : String} :
    x ∈ fs.map Firing.experiment ↔ ∃ a ∈ as, name a = x ∧ ∃ f, Fires a f := by
  constructor
  · intro hx
    obtain ⟨f, hf, rfl⟩ := List.mem_map.mp hx
    obtain ⟨a, ha, hfa⟩ := h.exists_of_mem hf
    exact ⟨a, ha, (hname a f hfa).symm, f, hfa⟩
  · rintro ⟨a, ha, rfl, f, hf⟩
    obtain ⟨g, hg, hag⟩ := h.exists_mem ha hf
    exact List.mem_map.mpr ⟨g, hg, hname a g hag⟩

end FiringsOf

end SplitTest

import SplitTest.Proofs.Hook.Repetition

/-!
# Rendering

A rendered position shows, in the order of the dataset, the script of every experiment that
has one queued there, and uses up the scripts of request experiments and of experiments that no
longer take place (`ScriptPosition.renderEntries_eq`).  Rendering reads the registry while it
takes keys out of it.  Shortnames are distinct, so that no key is met again on the way, and the
two positions have no key in common (`ScriptPosition.key_eq_key_iff`), so that they can be
rendered in either order.

While no command is executed nothing is queued.  A script that is used up has then been shown
for the last time (`Visit.ExecutesNothing.count_shownAt_le_one`).
-/

namespace SplitTest

open SplitTest.Store

/-- The scripts of an experiment are used up where they are shown. -/
def Entry.ShowsOnce (e : Entry) : Prop := e.scope = .request ∨ e.enabled = false

instance : DecidablePred Entry.ShowsOnce := fun e =>
  inferInstanceAs (Decidable (e.scope = .request ∨ e.enabled = false))

namespace ScriptPosition

theorem usesUp_iff {e : Entry} : usesUp e = true ↔ e.ShowsOnce := by
  simp [usesUp, Entry.ShowsOnce]

theorem length_name (p : ScriptPosition) : p.name.length = 9 := by
  cases p <;> rfl

theorem name_injective : Function.Injective name := by
  intro p q h
  cases p <;> cases q <;> simp [name] at h ⊢

/-- **A key tells its position and its shortname.** -/
theorem key_eq_key_iff {p q : ScriptPosition} {x y : String} :
    p.key x = q.key y ↔ p = q ∧ x = y := by
  refine ⟨fun h => ?_, by rintro ⟨rfl, rfl⟩; rfl⟩
  have hchars : p.name.toList ++ ("_" ++ x).toList = q.name.toList ++ ("_" ++ y).toList := by
    rw [← String.toList_append, ← String.toList_append, ← String.append_assoc,
      ← String.append_assoc]
    exact congrArg String.toList h
  -- names of positions have one length
  have hlength : p.name.toList.length = q.name.toList.length := by
    rw [String.length_toList, String.length_toList, length_name, length_name]
  obtain ⟨hname, hshortname⟩ := List.append_inj hchars hlength
  exact ⟨name_injective (String.toList_inj.mp hname),
    (String.append_right_inj "_").mp (String.toList_inj.mp hshortname)⟩

/-- The scripts that a position shows for entries, each with the shortname of its entry. -/
def shown (p : ScriptPosition) (scripts : ScriptRegistry) (es : List Entry) :
    List (String × String) :=
  es.filterMap fun e => (scripts.get? (p.key e.shortname)).map fun body => (e.shortname, body)

/-- The text of a position: one script element after another. -/
def page (p : ScriptPosition) (scripts : ScriptRegistry) (es : List Entry) : String :=
  String.join ((p.shown scripts es).map fun x =>
    "<script type='text/javascript'>" ++ x.2 ++ "</script>")

/-- The keys that rendering a position takes out. -/
def spent (p : ScriptPosition) (es : List Entry) : List String :=
  (es.filter fun e => e.ShowsOnce).map fun e => p.key e.shortname

section
variable {p q : ScriptPosition} {scripts scripts' : ScriptRegistry} {e : Entry} {es : List Entry}

theorem shown_congr (h : ∀ e ∈ es, Dictionary.get? scripts (p.key e.shortname) =
    Dictionary.get? scripts' (p.key e.shortname)) : p.shown scripts es = p.shown scripts' es :=
  List.filterMap_congr fun e he => by rw [h e he]

theorem get?_of_mem_shown {x : String × String} (hx : x ∈ p.shown scripts es) :
    Dictionary.get? scripts (p.key x.1) = some x.2 := by
  obtain ⟨e, -, he⟩ := List.mem_filterMap.mp hx
  obtain ⟨body, hbody, rfl⟩ := Option.map_eq_some_iff.mp he
  exact hbody

theorem shown_sublist : ((p.shown scripts es).map Prod.fst).Sublist (es.map Entry.shortname) := by
  induction es with
  | nil => exact .slnil
  | cons e es ih =>
    rw [shown, List.filterMap_cons]
    cases Dictionary.get? scripts (p.key e.shortname) with
    | none => exact ih.cons e.shortname
    | some body => exact ih.cons_cons e.shortname

theorem page_cons :
    p.page scripts (e :: es) = p.element scripts e ++ p.page scripts es := by
  rw [page, shown, List.filterMap_cons, element]
  cases Dictionary.get? scripts (p.key e.shortname) with
  | none => exact String.empty_append.symm
  | some body => exact String.join_cons

/-- **What rendering does**, in one go. -/
theorem renderEntries_eq (hes : (es.map Entry.shortname).Nodup) :
    ∀ scripts : ScriptRegistry,
      p.renderEntries es scripts = (p.page scripts es, scripts.without (p.spent es)) := by
  induction es with
  | nil => exact fun scripts => Prod.ext rfl (Keyed.without_nil scripts).symm
  | cons e es ih =>
    intro scripts
    obtain ⟨he, hes⟩ := List.nodup_cons.mp hes
    rw [renderEntries, page_cons]
    by_cases honce : e.ShowsOnce
    · have hspent : p.spent (e :: es) = [p.key e.shortname] ++ p.spent es := by
        simp [spent, honce]
      -- the key that is taken out is none of the later ones
      have hlater : p.shown (scripts.without [p.key e.shortname]) es = p.shown scripts es :=
        shown_congr fun e' he' => by
          rw [Dictionary.get?_without, if_neg]
          intro hkey
          obtain ⟨-, hname⟩ := key_eq_key_iff.mp (List.mem_singleton.mp hkey)
          exact he (hname ▸ List.mem_map_of_mem he')
      simp only [usesUp_iff.mpr honce, if_true, ih hes, Keyed.erase_eq_without,
        Keyed.without_without, page, hlater, hspent]
    · have hspent : p.spent (e :: es) = p.spent es := by simp [spent, honce]
      have hkept : usesUp e = false := Bool.eq_false_iff.mpr (mt usesUp_iff.mp honce)
      simp only [hkept, Bool.false_eq_true, if_false, ih hes, hspent]

end

section
variable {p q : ScriptPosition} {scripts : ScriptRegistry} {d : Dataset} {e : Entry}

theorem mem_spent (he : e ∈ d.items) :
    q.key e.shortname ∈ p.spent d.items ↔ p = q ∧ e.ShowsOnce := by
  simp only [spent, List.mem_map, List.mem_filter, decide_eq_true_eq, key_eq_key_iff]
  constructor
  · rintro ⟨e', ⟨he', honce⟩, hp, hname⟩
    obtain rfl := d.eq_of_key_eq he' he hname
    exact ⟨hp, honce⟩
  · rintro ⟨hp, honce⟩
    exact ⟨e, ⟨he, honce⟩, hp, rfl⟩

/-- What a position shows when it is rendered again. -/
theorem shown_without_spent : p.shown (scripts.without (p.spent d.items)) d.items =
    p.shown scripts (d.active.filter fun e => e.scope ≠ .request) := by
  rw [Dataset.active, List.filter_filter, shown, shown, List.filterMap_filter]
  refine List.filterMap_congr fun e he => ?_
  have hkept : (Decidable.decide (e.scope ≠ .request) && e.enabled) = true ↔ ¬e.ShowsOnce := by
    simp [Entry.ShowsOnce]
  simp only [Dictionary.get?_without, mem_spent he, true_and, hkept]
  by_cases honce : e.ShowsOnce <;> simp [honce]

/-- Rendering one position is nothing to the other. -/
theorem shown_without_spent_of_ne (hpq : p ≠ q) :
    q.shown (scripts.without (p.spent d.items)) d.items = q.shown scripts d.items :=
  shown_congr fun e he => by
    rw [Dictionary.get?_without, if_neg fun h => hpq ((mem_spent he).mp h).1]

end

end ScriptPosition

/-! ## Calls -/

namespace HookCall

/-- The position of a call that renders, none for one that evaluates. -/
def position? : HookCall → Option ScriptPosition
  | evaluate _ | evaluateStrictly _ => none
  | render p | renderStrictly p => some p

/-- **A call that renders** answers the text of its position, and takes the keys that it uses
up out of the registry. -/
theorem run_render {c : HookCall} {p : ScriptPosition} {s : Settings} {r : Request}
    (hc : c.position? = some p) (hon : r.adminDisabled s = false) (d : Dataset) (h : Host)
    (draws : Draws) :
    c.run s r (.ok d) h draws = ⟨.text (p.page h.scripts d.items),
      { h with scripts := h.scripts.without (p.spent d.items) }, draws, []⟩ := by
  have hattempt : p.attempt s r (.ok d) h.scripts =
      .ok (p.page h.scripts d.items, h.scripts.without (p.spent d.items)) := by
    rw [ScriptPosition.attempt, hon, if_neg Bool.false_ne_true,
      ScriptPosition.renderEntries_eq d.distinct]
  cases c with
  | evaluate k => cases hc
  | evaluateStrictly k => cases hc
  | render p' =>
    obtain rfl := Option.some.inj hc
    simp only [run, ScriptPosition.render, hattempt]
  | renderStrictly p' =>
    obtain rfl := Option.some.inj hc
    simp only [run, hattempt]

theorem hook?_ne_none {c : HookCall} (hc : c.position? = none) : c.hook? ≠ none := by
  cases c with
  | evaluate k => exact Option.some_ne_none k
  | evaluateStrictly k => exact Option.some_ne_none k
  | render p => cases hc
  | renderStrictly p => cases hc

end HookCall

/-! ## Runs without a command -/

/-- Lists without a line do nothing. -/
theorem Host.carryOut_of_blank {batch : Batch} (hbatch : ∀ x ∈ batch, x.2.lines = []) :
    ∀ h : Host, h.carryOut batch = h := by
  induction batch with
  | nil => exact fun h => rfl
  | cons x batch ih =>
    intro h
    obtain ⟨hx, hbatch⟩ := List.forall_mem_cons.mp hbatch
    rw [carryOut_cons, ih hbatch, execute_fst, hx]
    rfl

namespace Visit
variable {σ : Type} (source : Source σ)

/-- A run of one request executes no command, and what it renders it renders from one
dataset. -/
structure ExecutesNothing (v : Visit σ) (d : Dataset) (steps : List (VisitStep σ)) : Prop where
  /-- No other request begins. -/
  continues : ∀ r scripts, VisitStep.begin r scripts ∉ steps
  /-- Every call that renders reads this dataset. -/
  reads : ∀ w c, (w, c) ∈ v.calls source steps → c.position? ≠ none →
    (w.read source c).1 = .ok d
  /-- The conditions that fire have no command. -/
  idle : ∀ w c, (w, c) ∈ v.calls source steps → c.position? = none →
    ∀ x ∈ w.batch source c, x.2.lines = []

/-- The shortnames of the experiments whose scripts a run shows at a position, in order. -/
def shownAt (v : Visit σ) (d : Dataset) (p : ScriptPosition) (steps : List (VisitStep σ)) :
    List String :=
  (v.calls source steps).flatMap fun call =>
    if call.2.position? = some p then (p.shown call.1.host.scripts d.items).map Prod.fst else []

theorem shownAt_call (v : Visit σ) (c : HookCall) (d : Dataset) (p : ScriptPosition)
    (steps : List (VisitStep σ)) : v.shownAt source d p (.call c :: steps) =
      (if c.position? = some p then (p.shown v.host.scripts d.items).map Prod.fst else []) ++
        (v.call source c).2.shownAt source d p steps :=
  List.flatMap_cons

namespace ExecutesNothing
variable {source} {v w : Visit σ} {c : HookCall} {d : Dataset} {p : ScriptPosition}
  {step : VisitStep σ} {steps : List (VisitStep σ)}

theorem calls_tail (step : VisitStep σ) (steps : List (VisitStep σ)) :
    ∀ call ∈ (v.step source step).calls source steps, call ∈ v.calls source (step :: steps) := by
  intro call hcall
  cases step with
  | call c => exact List.mem_cons_of_mem _ hcall
  | _ => exact hcall

theorem tail (hv : v.ExecutesNothing source d (step :: steps)) :
    (v.step source step).ExecutesNothing source d steps where
  continues r scripts hmem := hv.continues r scripts (List.mem_cons_of_mem step hmem)
  reads w c hw := hv.reads w c (calls_tail step steps (w, c) hw)
  idle w c hw := hv.idle w c (calls_tail step steps (w, c) hw)

/-- What a rendering call of the run does. -/
theorem result_eq (hv : v.ExecutesNothing source d steps)
    (hon : v.request.adminDisabled v.settings = false) (hw : (w, c) ∈ v.calls source steps)
    (hc : c.position? = some p) :
    w.result source c = ⟨.text (p.page w.host.scripts d.items),
      { w.host with scripts := w.host.scripts.without (p.spent d.items) }, w.draws, []⟩ := by
  obtain ⟨hrequest, hsettings⟩ := request_of_mem_calls hv.continues hw
  rw [result, hv.reads w c hw (by simp [hc]), HookCall.run_render hc]
  rw [hrequest, hsettings, hon]

/-- **A step takes scripts out of the registry**, those that a position uses up, or none. -/
theorem exists_without (hv : v.ExecutesNothing source d (step :: steps))
    (hon : v.request.adminDisabled v.settings = false) :
    ∃ ks, (v.step source step).host.scripts = v.host.scripts.without ks ∧
      ∀ c p, step = .call c → c.position? = some p → ks = p.spent d.items := by
  cases step with
  | begin r scripts => exact absurd List.mem_cons_self (hv.continues r scripts)
  | call c =>
    cases hc : c.position? with
    | some p =>
      refine ⟨p.spent d.items, ?_, ?_⟩
      · show (v.call source c).2.host.scripts = _
        rw [host_call, hv.result_eq hon List.mem_cons_self hc]
      · rintro _ q ⟨⟩ hq
        rw [Option.some.inj (hc.symm.trans hq)]
    | none =>
      refine ⟨[], ?_, ?_⟩
      · show (v.call source c).2.host.scripts = _
        rw [host_call_of_hook (HookCall.hook?_ne_none hc), Keyed.without_nil,
          Host.carryOut_of_blank (hv.idle v c List.mem_cons_self hc)]
      · rintro _ q ⟨⟩ hq
        cases hc.symm.trans hq
  | _ => exact ⟨[], (Keyed.without_nil _).symm, by rintro c p ⟨⟩⟩

theorem adminDisabled_step (hv : v.ExecutesNothing source d (step :: steps))
    (hon : v.request.adminDisabled v.settings = false) :
    (v.step source step).request.adminDisabled (v.step source step).settings = false := by
  have hfirst : ∀ r scripts, VisitStep.begin r scripts ∉ [step] := fun r scripts hmem =>
    hv.continues r scripts (List.mem_cons.mpr (Or.inl (List.mem_singleton.mp hmem)))
  obtain ⟨hrequest, hsettings⟩ : (v.step source step).request = v.request ∧
      (v.step source step).settings = v.settings := request_run hfirst v
  rw [hrequest, hsettings, hon]

/-- **What is not queued is not shown.** -/
theorem not_mem_shownAt {x : String} :
    ∀ {v : Visit σ}, v.ExecutesNothing source d steps →
      v.request.adminDisabled v.settings = false →
      Dictionary.get? v.host.scripts (p.key x) = none → x ∉ v.shownAt source d p steps := by
  induction steps with
  | nil => exact fun _ _ _ => List.not_mem_nil
  | cons step steps ih =>
    intro v hv hon habsent
    have hlater : x ∉ (v.step source step).shownAt source d p steps := by
      obtain ⟨ks, hks, -⟩ := hv.exists_without hon
      refine ih hv.tail (hv.adminDisabled_step hon) ?_
      rw [hks, Dictionary.get?_without, habsent, ite_self]
    cases step with
    | call c =>
      rw [shownAt_call, List.mem_append, not_or]
      refine ⟨?_, hlater⟩
      split
      · intro hmem
        obtain ⟨y, hy, rfl⟩ := List.mem_map.mp hmem
        rw [ScriptPosition.get?_of_mem_shown hy] at habsent
        cases habsent
      · exact List.not_mem_nil
    | _ => exact hlater

/-- **A script that is used up is shown at most once** at a position. -/
theorem count_shownAt_le_one {e : Entry} (he : e ∈ d.items) (honce : e.ShowsOnce) :
    ∀ {v : Visit σ}, v.ExecutesNothing source d steps →
      v.request.adminDisabled v.settings = false →
      (v.shownAt source d p steps).count e.shortname ≤ 1 := by
  induction steps with
  | nil => exact fun _ _ => Nat.zero_le 1
  | cons step steps ih =>
    intro v hv hon
    have hlater := ih hv.tail (hv.adminDisabled_step hon)
    cases step with
    | call c =>
      rw [shownAt_call, List.count_append]
      split
      · next hc =>
        -- shown now, and taken out of the registry
        have hnow : ((p.shown v.host.scripts d.items).map Prod.fst).count e.shortname ≤ 1 :=
          List.nodup_iff_count_le_one.mp (d.distinct.sublist ScriptPosition.shown_sublist) _
        have hgone : e.shortname ∉ (v.call source c).2.shownAt source d p steps := by
          obtain ⟨ks, hks, hspent⟩ := hv.exists_without hon
          refine not_mem_shownAt hv.tail (hv.adminDisabled_step hon) ?_
          rw [step] at hks
          rw [hks, hspent c p rfl hc, Dictionary.get?_without,
            if_pos ((ScriptPosition.mem_spent he).mpr ⟨rfl, honce⟩)]
        rw [List.count_eq_zero.mpr hgone, Nat.add_zero]
        exact hnow
      · rw [List.count_nil, Nat.zero_add]
        exact hlater
    | _ => exact hlater

end ExecutesNothing

end Visit

/-! ## The law -/

/-- **The law of rendering** a dataset for a request. -/
structure RenderingLaw (s : Settings) (r : Request) (d : Dataset) : Prop where
  /-- A call that renders a position answers the script elements of its experiments, in the
  order of the dataset, and takes out of the registry what is used up there. -/
  renders : ∀ (c : HookCall) (p : ScriptPosition) (h : Host) (draws : Draws),
    c.position? = some p → c.run s r (.ok d) h draws = ⟨.text (p.page h.scripts d.items),
      { h with scripts := h.scripts.without (p.spent d.items) }, draws, []⟩
  /-- The order in which scripts were queued does not show. -/
  ordered : ∀ (p : ScriptPosition) (scripts scripts' : ScriptRegistry),
    scripts.items.Perm scripts'.items → p.page scripts d.items = p.page scripts' d.items
  /-- As long as no command is executed, each call that renders answers the elements of what
  it shows, and no position shows a script twice that is used up. -/
  once : ∀ {σ : Type} (source : Source σ) (v : Visit σ) (steps : List (VisitStep σ)),
    v.settings = s → v.request = r → v.ExecutesNothing source d steps →
    (∀ w c p, (w, c) ∈ v.calls source steps → c.position? = some p →
      (w.call source c).1 = .text (p.page w.host.scripts d.items)) ∧
    ∀ e ∈ d.items, e.ShowsOnce → ∀ p, (v.shownAt source d p steps).count e.shortname ≤ 1
  /-- A position that is rendered again shows the scripts of the enabled experiments of the
  other scopes, and changes nothing. -/
  again : ∀ (c c' : HookCall) (p : ScriptPosition) (h : Host) (draws : Draws),
    c.position? = some p → c'.position? = some p →
    let first := c.run s r (.ok d) h draws
    c'.run s r (.ok d) first.host first.draws =
      ⟨.text (p.page h.scripts (d.active.filter fun e => e.scope ≠ .request)), first.host,
        first.draws, []⟩
  /-- The positions can be rendered in either order. -/
  commutes : ∀ (c c' : HookCall) (p p' : ScriptPosition) (h : Host) (draws : Draws),
    c.position? = some p → c'.position? = some p' → p ≠ p' →
    let first := c.run s r (.ok d) h draws
    let second := c'.run s r (.ok d) first.host first.draws
    let first' := c'.run s r (.ok d) h draws
    let second' := c.run s r (.ok d) first'.host first'.draws
    first.answer = second'.answer ∧ second.answer = first'.answer ∧ second.host = second'.host

/-- **Rendering shows the right scripts and uses up the right ones**, whatever is queued. -/
theorem rendering_law (s : Settings) (r : Request) (d : Dataset)
    (hon : r.adminDisabled s = false) : RenderingLaw s r d where
  renders c p h draws hc := HookCall.run_render hc hon d h draws
  ordered p scripts scripts' hperm := by
    have hshown : p.shown scripts d.items = p.shown scripts' d.items :=
      ScriptPosition.shown_congr fun e _ => Dictionary.get?_eq_of_perm hperm _
    rw [ScriptPosition.page, hshown, ScriptPosition.page]
  once source v steps := by
    rintro rfl rfl hv
    refine ⟨fun w c p hw hc => ?_, fun e he honce p => hv.count_shownAt_le_one he honce hon⟩
    rw [Visit.answer_call, hv.result_eq hon hw hc]
  again c c' p h draws hc hc' := by
    have htwice : h.scripts.without (p.spent d.items ++ p.spent d.items) =
        h.scripts.without (p.spent d.items) := Keyed.without_congr h.scripts (by simp)
    simp only [HookCall.run_render hc hon, HookCall.run_render hc' hon, ScriptPosition.page,
      ScriptPosition.shown_without_spent, Keyed.without_without, htwice]
  commutes c c' p p' h draws hc hc' hne := by
    have hswap : h.scripts.without (p.spent d.items ++ p'.spent d.items) =
        h.scripts.without (p'.spent d.items ++ p.spent d.items) :=
      Keyed.without_congr h.scripts fun k => by rw [List.mem_append, List.mem_append, or_comm]
    simp only [HookCall.run_render hc hon, HookCall.run_render hc' hon, ScriptPosition.page,
      ScriptPosition.shown_without_spent_of_ne hne,
      ScriptPosition.shown_without_spent_of_ne hne.symm, Keyed.without_without, hswap, and_self]

/-- The footer of a coin of the request scope and a banner of the session scope: the banner was
queued first and is shown last, and only the banner is shown again. -/
theorem coin_and_banner_rendering :
    let d : Dataset := .ofList [Entry.coin .request,
      ⟨⟨⟨2⟩, "Banner", "banner", .session, true, true, 0⟩, .empty⟩]
    let h : Host := { (default : Host) with
      scripts := .ofList [("js_footer_banner", "b()"), ("js_footer_coin", "c()")] }
    let first := HookCall.run (.render .footer) .standard (.browse false) (.ok d) h (.constant 1)
    let second := HookCall.run (.render .footer) .standard (.browse false) (.ok d) first.host
      (.constant 1)
    let element (body : String) := "<script type='text/javascript'>" ++ body ++ "</script>"
    first.answer = .text (element "c()" ++ element "b()") ∧ second.answer = .text (element "b()") ∧
      (Request.browse false).adminDisabled .standard = false ∧
      RenderingLaw .standard (.browse false) d :=
  ⟨by decide +kernel, by decide +kernel, rfl, rendering_law .standard (.browse false) _ rfl⟩

end SplitTest

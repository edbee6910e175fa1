import SplitTest.Proofs.Hook.Run

/-!
# Skipped calls

A call is skipped if the request switched experiments off, if it has no device before the
session, or if the dataset that the call comes to read cannot be read (`Encounter.IsSkipped`).
A skipped call leaves the host and the draws, and answers by the reason alone
(`Encounter.IsSkipped.run_cases`); any other answers what it found out (`Encounter.answer_cases`).

What comes after a skipped call therefore finds what it would have found without it.  Any
skipped calls can be left out of a run, and nothing else in it changes
(`Happening.without_skipped`).  For that the calls of a run do not read from one source: each
has a read of its own that can fail, so that failures come wherever they like, and between the
calls the site does what it likes.  Every visit is such a run (`Visit.plays_happenings`).
-/

namespace SplitTest

open SplitTest.Store

/-! ## What stops a call -/

namespace HookCall

/-- A call before the session for a request that keeps its address or its user agent to
itself. -/
def lacksDevice (c : HookCall) (r : Request) : Bool :=
  c.hook? = some .beforeSession &&
    (r.requester.address.isNone || r.requester.userAgent.isNone)

/-- A call for a request that switched experiments off: an administrator's, or anyone's before
the session. -/
def isSwitchedOff (c : HookCall) (s : Settings) (r : Request) : Bool :=
  (r.requester.isAdmin || c.hook? = some .beforeSession) && r.disabledBy s.disableParam

/-- The form of a call that answers the error of a dataset that cannot be read. -/
def strict : HookCall → HookCall
  | evaluate k | evaluateStrictly k => evaluateStrictly k
  | render p | renderStrictly p => renderStrictly p

/-- Whether a call is of the strict form. -/
def isStrict : HookCall → Bool
  | evaluate _ | render _ => false
  | evaluateStrictly _ | renderStrictly _ => true

section
variable {c : HookCall} {k : EvaluationHook} {p : ScriptPosition} {s : Settings} {r : Request}
  {read : Except StoreError Dataset} {h : Host} {draws : Draws} {e : StoreError}

theorem lacksDevice_of_ne (hc : c.hook? ≠ some .beforeSession) : c.lacksDevice r = false := by
  rw [lacksDevice, decide_eq_false hc, Bool.false_and]

theorem isSwitchedOff_of_ne (hc : c.hook? ≠ some .beforeSession) :
    c.isSwitchedOff s r = r.adminDisabled s := by
  rw [isSwitchedOff, decide_eq_false hc, Bool.or_false, Request.adminDisabled]

/-- **What the gate of a hook looks at**: the device, then the word that switches experiments
off. -/
theorem gate_eq (hc : c.hook? = some k) :
    k.gate s r =
      if c.lacksDevice r then .noDevice
      else if c.isSwitchedOff s r then .switchedOff
      else .proceed (if k = .beforeSession then r.device? else none) := by
  -- the device counts before the session alone, and there everyone can switch off
  cases k with
  | afterConfig =>
    have hne : c.hook? ≠ some .beforeSession := by rw [hc]; simp
    rw [lacksDevice_of_ne hne, isSwitchedOff_of_ne hne]
    rfl
  | afterRequireLogin =>
    have hne : c.hook? ≠ some .beforeSession := by rw [hc]; simp
    rw [lacksDevice_of_ne hne, isSwitchedOff_of_ne hne]
    rfl
  | beforeSession =>
    have hoff : c.isSwitchedOff s r = r.disabledBy s.disableParam := by
      simp [isSwitchedOff, hc]
    have hdevice : c.lacksDevice r = r.device?.isNone := by
      rw [lacksDevice, hc, Request.device?]
      cases r.requester.address <;> cases r.requester.userAgent <;> rfl
    rw [hoff, hdevice, EvaluationHook.gate]
    cases r.device? with
    | none => rfl
    | some device => rfl

/-- A call comes to its dataset if neither stops it. -/
theorem readsDataset_eq_and :
    c.readsDataset s r = (!c.lacksDevice r && !c.isSwitchedOff s r) := by
  have hrender (hc : c.hook? = none) :
      (!c.lacksDevice r && !c.isSwitchedOff s r) = ScriptPosition.readsDataset s r := by
    have hne : c.hook? ≠ some .beforeSession := by rw [hc]; simp
    rw [lacksDevice_of_ne hne, isSwitchedOff_of_ne hne]
    rfl
  cases hc : c.hook? with
  | some k =>
    rw [readsDataset_eq hc, EvaluationHook.readsDataset, gate_eq hc]
    cases c.lacksDevice r <;> cases c.isSwitchedOff s r <;> rfl
  | none =>
    rw [hrender hc]
    cases c with
    | evaluate k => cases hc
    | evaluateStrictly k => cases hc
    | render p => rfl
    | renderStrictly p => rfl

theorem exists_gate_of_reads (hc : c.hook? = some k) (hreads : c.readsDataset s r = true) :
    ∃ device, k.gate s r = .proceed device := by
  rw [readsDataset_eq hc, EvaluationHook.readsDataset] at hreads
  cases hg : k.gate s r with
  | proceed device => exact ⟨device, rfl⟩
  | switchedOff => rw [hg] at hreads; cases hreads
  | noDevice => rw [hg] at hreads; cases hreads

/-! ## What a call does -/

/-- The answer of a call that does nothing: a report, or no text. -/
def idleAnswer (c : HookCall) (report : Report) : HookAnswer :=
  if c.hook?.isSome then .report report else .text ""

/-- **A call that does not come to its dataset** leaves the host and the draws. -/
theorem run_of_not_reads (hreads : c.readsDataset s r = false) :
    c.run s r read h draws =
      ⟨c.idleAnswer (if c.lacksDevice r then .empty else .switchedOff), h, draws, []⟩ := by
  cases hc : c.hook? with
  | some k =>
    have hgate := gate_eq (s := s) (r := r) hc
    rw [readsDataset_eq_and] at hreads
    rw [idleAnswer, hc]
    cases hdevice : c.lacksDevice r with
    | true =>
      rw [hdevice, if_pos rfl] at hgate
      rw [run_stopped hc (by rw [hgate]; simp), hgate]
      rfl
    | false =>
      cases hoff : c.isSwitchedOff s r with
      | true =>
        rw [hdevice, hoff, if_neg Bool.false_ne_true, if_pos rfl] at hgate
        rw [run_stopped hc (by rw [hgate]; simp), hgate]
        rfl
      | false =>
        rw [hdevice, hoff] at hreads
        cases hreads
  | none =>
    cases c with
    | evaluate k => cases hc
    | evaluateStrictly k => cases hc
    | render p =>
      have hoff : r.adminDisabled s = true := (Bool.not_eq_false' _).mp hreads
      simp only [run, ScriptPosition.render, ScriptPosition.attempt, hoff, if_true]
      rfl
    | renderStrictly p =>
      have hoff : r.adminDisabled s = true := (Bool.not_eq_false' _).mp hreads
      simp only [run, ScriptPosition.attempt, hoff, if_true]
      rfl

/-- **A call whose dataset cannot be read** leaves the host and the draws.  The strict form
answers the error, and the other tells that it was in vain. -/
theorem run_of_unread (hreads : c.readsDataset s r = true) (e : StoreError) (h : Host)
    (draws : Draws) : ∃ events, c.run s r (.error e) h draws =
      ⟨if c.isStrict then .failure e else c.idleAnswer .empty, h, draws, events⟩ := by
  cases c with
  | evaluate k =>
    obtain ⟨device, hg⟩ := exists_gate_of_reads rfl hreads
    exact ⟨_, by simp only [run, EvaluationHook.run, EvaluationHook.attempt, hg]; rfl⟩
  | evaluateStrictly k =>
    obtain ⟨device, hg⟩ := exists_gate_of_reads rfl hreads
    exact ⟨_, by simp only [run, EvaluationHook.attempt, hg]; rfl⟩
  | render p =>
    have hon : r.adminDisabled s = false := (Bool.not_eq_true' _).mp hreads
    exact ⟨_, by simp only [run, ScriptPosition.render, ScriptPosition.attempt, hon]; rfl⟩
  | renderStrictly p =>
    have hon : r.adminDisabled s = false := (Bool.not_eq_true' _).mp hreads
    exact ⟨_, by simp only [run, ScriptPosition.attempt, hon]; rfl⟩

/-- A call that reads its dataset answers a report of a request that left experiments on, or a
text. -/
theorem answer_of_reads {d : Dataset} (hreads : c.readsDataset s r = true) :
    (∃ report, (c.run s r (.ok d) h draws).answer = .report report ∧ report.disabled = false) ∨
      ∃ text, (c.run s r (.ok d) h draws).answer = .text text := by
  cases hc : c.hook? with
  | some k =>
    obtain ⟨device, hg⟩ := exists_gate_of_reads hc hreads
    obtain ⟨report, ha, hdisabled, -⟩ := run_firings d h draws hc hg
    exact Or.inl ⟨report, ha, hdisabled⟩
  | none =>
    cases c with
    | evaluate k => cases hc
    | evaluateStrictly k => cases hc
    | render p => exact Or.inr ⟨_, rfl⟩
    | renderStrictly p =>
      have hon : r.adminDisabled s = false := (Bool.not_eq_true' _).mp hreads
      exact Or.inr ⟨_, by simp only [run, ScriptPosition.attempt, hon]; rfl⟩

/-- An attempt of a hook fails only by its dataset. -/
theorem unread_of_attempt (herror : (k.attempt s r read h draws).answer = .error e) :
    k.readsDataset s r = true ∧ read = .error e := by
  rw [EvaluationHook.readsDataset]
  simp only [EvaluationHook.attempt] at herror
  cases hg : k.gate s r with
  | switchedOff => rw [hg] at herror; cases herror
  | noDevice => rw [hg] at herror; cases herror
  | proceed device =>
    rw [hg] at herror
    cases read with
    | error e' =>
      obtain rfl := Except.error.inj herror
      exact ⟨rfl, rfl⟩
    | ok d => cases herror

/-- Rendering fails only by its dataset. -/
theorem unread_of_render {scripts : ScriptRegistry}
    (herror : p.attempt s r read scripts = .error e) :
    ScriptPosition.readsDataset s r = true ∧ read = .error e := by
  rw [ScriptPosition.readsDataset]
  simp only [ScriptPosition.attempt] at herror
  cases hoff : r.adminDisabled s with
  | true => rw [hoff] at herror; cases herror
  | false =>
    rw [hoff] at herror
    cases read with
    | error e' =>
      obtain rfl := Except.error.inj herror
      exact ⟨rfl, rfl⟩
    | ok d => cases herror

/-- **Both forms of a call do the same** unless its dataset cannot be read. -/
theorem run_strict (hread : ∀ e, c.readsDataset s r = true → read ≠ .error e) :
    c.strict.run s r read h draws = c.run s r read h draws := by
  -- the forms part where an attempt fails, and none does
  cases c with
  | evaluateStrictly k => rfl
  | renderStrictly p => rfl
  | evaluate k =>
    simp only [strict, run, EvaluationHook.run]
    cases herror : (k.attempt s r read h draws).answer with
    | ok report => rfl
    | error e =>
      obtain ⟨hreads, hfails⟩ := unread_of_attempt herror
      exact absurd hfails (hread e hreads)
  | render p =>
    simp only [strict, run, ScriptPosition.render]
    cases herror : p.attempt s r read h.scripts with
    | ok result => rfl
    | error e =>
      obtain ⟨hreads, hfails⟩ := unread_of_render herror
      exact absurd hfails (hread e hreads)

end

end HookCall

/-! ## Encounters -/

/-- A call, and what it meets beside the host and the draws. -/
structure Encounter where
  /-- The call. -/
  call : HookCall
  /-- The settings of the evaluation. -/
  settings : Settings
  /-- The request. -/
  request : Request
  /-- What reading the dataset gives. -/
  read : Except StoreError Dataset

namespace Encounter
variable (o : Encounter)

/-- The call made on a host and draws. -/
def run (h : Host) (draws : Draws) : HookResult HookAnswer :=
  o.call.run o.settings o.request o.read h draws

/-- The strict form of the call in its place. -/
def strictly : Encounter := { o with call := o.call.strict }

/-- The call comes to its dataset, which cannot be read. -/
def IsUnread (e : StoreError) : Prop :=
  o.call.readsDataset o.settings o.request = true ∧ o.read = .error e

/-- The call is skipped: its dataset cannot be read, experiments were switched off, or there is
no device. -/
def IsSkipped : Prop :=
  (∃ e, o.IsUnread e) ∨ o.call.isSwitchedOff o.settings o.request = true ∨
    o.call.lacksDevice o.request = true

/-- The report of the call if it is skipped.  It tells that experiments were switched off,
unless there is no device to begin with. -/
def idleReport : Report :=
  if o.call.isSwitchedOff o.settings o.request && !o.call.lacksDevice o.request then .switchedOff
  else .empty

/-- **How a call is skipped.** -/
structure SkipLaw : Prop where
  /-- A skipped call leaves the host and the draws. -/
  unchanged : o.IsSkipped → ∀ h draws, (o.run h draws).host = h ∧ (o.run h draws).draws = draws
  /-- The plain form of a skipped call answers a report of nothing, or no text. -/
  plain : o.IsSkipped → o.call.isStrict = false →
    ∀ h draws, (o.run h draws).answer = o.call.idleAnswer o.idleReport
  /-- A report only says so if experiments were switched off. -/
  disabled : ∀ h draws report, (o.run h draws).answer = .report report → report.disabled = true →
    o.call.isSwitchedOff o.settings o.request = true
  /-- The strict form fails exactly by the dataset, and the plain form never. -/
  failure : ∀ h draws e,
    (o.run h draws).answer = .failure e ↔ o.call.isStrict = true ∧ o.IsUnread e
  /-- If the dataset can be read, or is not called for, both forms do the same. -/
  forms : (∀ e, ¬o.IsUnread e) → ∀ h draws, o.strictly.run h draws = o.run h draws

variable {o} {h : Host} {draws : Draws}

/-- A skipped call does not come to its dataset, or cannot read it. -/
theorem IsSkipped.cases (hskipped : o.IsSkipped) :
    o.call.readsDataset o.settings o.request = false ∨ ∃ e, o.IsUnread e := by
  rcases hskipped with hunread | hoff | hdevice
  · exact Or.inr hunread
  · rw [HookCall.readsDataset_eq_and, hoff, Bool.not_true, Bool.and_false]
    exact Or.inl rfl
  · rw [HookCall.readsDataset_eq_and, hdevice, Bool.not_true, Bool.false_and]
    exact Or.inl rfl

/-- A call that is not skipped reads its dataset. -/
theorem reads_of_not_isSkipped (hskipped : ¬o.IsSkipped) :
    o.call.readsDataset o.settings o.request = true ∧ ∃ d, o.read = .ok d := by
  obtain ⟨hunread, hskipped⟩ := not_or.mp hskipped
  obtain ⟨hoff, hdevice⟩ := not_or.mp hskipped
  have hreads : o.call.readsDataset o.settings o.request = true := by
    rw [HookCall.readsDataset_eq_and, Bool.eq_false_iff.mpr hoff, Bool.eq_false_iff.mpr hdevice]
    rfl
  cases hread : o.read with
  | error e => exact absurd ⟨e, hreads, hread⟩ hunread
  | ok d => exact ⟨hreads, d, rfl⟩

theorem idleReport_of_not_reads (hreads : o.call.readsDataset o.settings o.request = false) :
    o.idleReport = if o.call.lacksDevice o.request then .empty else .switchedOff := by
  rw [HookCall.readsDataset_eq_and] at hreads
  rw [idleReport]
  cases hdevice : o.call.lacksDevice o.request with
  | true => rw [Bool.not_true, Bool.and_false]; rfl
  | false =>
    cases hoff : o.call.isSwitchedOff o.settings o.request with
    | true => rfl
    | false => rw [hdevice, hoff] at hreads; cases hreads

theorem idleReport_of_reads (hreads : o.call.readsDataset o.settings o.request = true) :
    o.idleReport = .empty := by
  rw [HookCall.readsDataset_eq_and] at hreads
  rw [idleReport, (Bool.not_eq_true' _).mp (Bool.and_eq_true_iff.mp hreads).2]
  rfl

/-- **A skipped call** leaves the host and the draws, and answers by the reason alone. -/
theorem IsSkipped.run_cases (hskipped : o.IsSkipped) (h : Host) (draws : Draws) :
    o.call.readsDataset o.settings o.request = false ∧
        o.run h draws = ⟨o.call.idleAnswer o.idleReport, h, draws, []⟩ ∨
      ∃ e events, o.IsUnread e ∧ o.run h draws =
        ⟨if o.call.isStrict then .failure e else o.call.idleAnswer o.idleReport,
          h, draws, events⟩ := by
  rcases hskipped.cases with hreads | ⟨e, he⟩
  · refine Or.inl ⟨hreads, ?_⟩
    rw [run, HookCall.run_of_not_reads hreads, idleReport_of_not_reads hreads]
  · obtain ⟨events, hrun⟩ := HookCall.run_of_unread he.1 e h draws
    refine Or.inr ⟨e, events, he, ?_⟩
    rw [run, he.2, hrun, idleReport_of_reads he.1]

theorem IsSkipped.unchanged (hskipped : o.IsSkipped) (h : Host) (draws : Draws) :
    (o.run h draws).host = h ∧ (o.run h draws).draws = draws := by
  rcases hskipped.run_cases h draws with ⟨-, hrun⟩ | ⟨e, events, -, hrun⟩
  · rw [hrun]
    exact ⟨rfl, rfl⟩
  · rw [hrun]
    exact ⟨rfl, rfl⟩

/-- **What a call can answer**: the error of its dataset, what a skipped call does, a report of
a request that left experiments on, or a text. -/
theorem answer_cases (o : Encounter) (h : Host) (draws : Draws) :
    (∃ e, o.call.isStrict = true ∧ o.IsUnread e ∧ (o.run h draws).answer = .failure e) ∨
      (o.run h draws).answer = o.call.idleAnswer o.idleReport ∨
      (∃ report, (o.run h draws).answer = .report report ∧ report.disabled = false) ∨
      ∃ text, (o.run h draws).answer = .text text := by
  by_cases hskipped : o.IsSkipped
  · rcases hskipped.run_cases h draws with ⟨-, hrun⟩ | ⟨e, events, he, hrun⟩
    · rw [hrun]
      exact Or.inr (Or.inl rfl)
    · rw [hrun]
      by_cases hstrict : o.call.isStrict = true
      · exact Or.inl ⟨e, hstrict, he, if_pos hstrict⟩
      · exact Or.inr (Or.inl (if_neg hstrict))
  · obtain ⟨hreads, d, hread⟩ := reads_of_not_isSkipped hskipped
    rw [run, hread]
    exact Or.inr (Or.inr (HookCall.answer_of_reads hreads))

theorem isSwitchedOff_of_idleAnswer {report : Report}
    (ha : o.call.idleAnswer o.idleReport = .report report) (hdisabled : report.disabled = true) :
    o.call.isSwitchedOff o.settings o.request = true := by
  rw [HookCall.idleAnswer, idleReport] at ha
  split at ha
  · obtain rfl := HookAnswer.report.inj ha
    split at hdisabled
    · next hoff => exact (Bool.and_eq_true_iff.mp hoff).1
    · cases hdisabled
  · cases ha

theorem idleAnswer_ne_failure (c : HookCall) (report : Report) (e : StoreError) :
    c.idleAnswer report ≠ .failure e := by
  rw [HookCall.idleAnswer]
  split <;> simp

theorem isSwitchedOff_of_disabled {report : Report} (ha : (o.run h draws).answer = .report report)
    (hdisabled : report.disabled = true) : o.call.isSwitchedOff o.settings o.request = true := by
  rcases o.answer_cases h draws with ⟨e, -, -, he⟩ | hidle | ⟨report', hreport, hon⟩ | ⟨text, htext⟩
  · rw [he] at ha
    cases ha
  · exact isSwitchedOff_of_idleAnswer (hidle.symm.trans ha) hdisabled
  · obtain rfl := HookAnswer.report.inj (hreport.symm.trans ha)
    rw [hon] at hdisabled
    cases hdisabled
  · rw [htext] at ha
    cases ha

theorem answer_eq_failure_iff {e : StoreError} :
    (o.run h draws).answer = .failure e ↔ o.call.isStrict = true ∧ o.IsUnread e := by
  constructor
  · intro ha
    rcases o.answer_cases h draws with ⟨e', hstrict, hunread, he⟩ | hidle | ⟨report, hreport, -⟩ |
      ⟨text, htext⟩
    · obtain rfl := HookAnswer.failure.inj (he.symm.trans ha)
      exact ⟨hstrict, hunread⟩
    · exact absurd (hidle.symm.trans ha) (idleAnswer_ne_failure _ _ e)
    · rw [hreport] at ha
      cases ha
    · rw [htext] at ha
      cases ha
  · rintro ⟨hstrict, hreads, hread⟩
    obtain ⟨events, hrun⟩ := HookCall.run_of_unread hreads e h draws
    rw [run, hread, hrun, hstrict]
    rfl

theorem skipLaw (o : Encounter) : o.SkipLaw := by
  refine ⟨IsSkipped.unchanged, fun hskipped hplain h draws => ?_,
    fun _ _ _ => isSwitchedOff_of_disabled, fun _ _ _ => answer_eq_failure_iff,
    fun hread h draws => HookCall.run_strict fun e hreads hfails => hread e ⟨hreads, hfails⟩⟩
  rcases hskipped.run_cases h draws with ⟨-, hrun⟩ | ⟨e, events, -, hrun⟩
  · rw [hrun]
  · rw [hrun, hplain]
    rfl

end Encounter

/-! ## Runs -/

/-- What happens in a run: a call, with a name to tell it by, or something that the site
does. -/
inductive Happening (ι : Type) where
  /-- A hook is called. -/
  | call (name : ι) (o : Encounter)
  /-- The site acts on the host and the draws. -/
  | site (act : Host × Draws → Host × Draws)

namespace Happening
variable {ι : Type}

/-- One happening. -/
def play (s : Host × Draws) : Happening ι → Host × Draws
  | call _ o => ((o.run s.1 s.2).host, (o.run s.1 s.2).draws)
  | site act => act s

/-- The host and the draws after a run. -/
def finish (s : Host × Draws) (run : List (Happening ι)) : Host × Draws := run.foldl play s

/-- The results of the calls of a run, each with the name of the call. -/
def results (s : Host × Draws) : List (Happening ι) → List (ι × HookResult HookAnswer)
  | [] => []
  | call name o :: run => (name, o.run s.1 s.2) :: results (play s (call name o)) run
  | site act :: run => results (act s) run

/-- Whether a happening is a call by a name that is left out. -/
def isLeftOut (out : ι → Bool) : Happening ι → Bool
  | call name _ => out name
  | site _ => false

/-- A run without the calls by names that are left out. -/
def without (out : ι → Bool) (run : List (Happening ι)) : List (Happening ι) :=
  run.filter fun x => !x.isLeftOut out

/-- **A run can do without calls**: the host and the draws are left as with them, and so is the
result of every other call, which is all that it answers, leaves and reports. -/
structure CanDoWithout (s : Host × Draws) (run : List (Happening ι)) (out : ι → Bool) : Prop where
  /-- The run ends as it would have ended. -/
  finish : finish s (without out run) = finish s run
  /-- Each other call does what it would have done. -/
  results : results s (without out run) = (results s run).filter fun result => !out result.1

/-- **Skipped calls can be left out of a run.** -/
theorem without_skipped {run : List (Happening ι)} {out : ι → Bool}
    (hout : ∀ name o, call name o ∈ run → out name = true → o.IsSkipped) :
    ∀ s : Host × Draws, CanDoWithout s run out := by
  induction run with
  | nil => exact fun s => ⟨rfl, rfl⟩
  | cons x run ih =>
    intro s
    have ih' := ih fun name o hmem => hout name o (List.mem_cons_of_mem x hmem)
    cases x with
    | site act =>
      obtain ⟨hfinish, hresults⟩ := ih' (act s)
      exact ⟨hfinish, hresults⟩
    | call name o =>
      cases hname : out name with
      | false =>
        have hkept : without out (call name o :: run) = call name o :: without out run :=
          List.filter_cons_of_pos (by simp [isLeftOut, hname])
        obtain ⟨hfinish, hresults⟩ := ih' (play s (call name o))
        refine ⟨?_, ?_⟩
        · rw [hkept]
          exact hfinish
        · rw [hkept, results, results, List.filter_cons_of_pos (by simp [hname]), hresults]
      | true =>
        -- what comes next finds the host and the draws that the call found
        have hgone : without out (call name o :: run) = without out run :=
          List.filter_cons_of_neg (by simp [isLeftOut, hname])
        have hsame : play s (call name o) = s := by
          obtain ⟨hhost, hdraws⟩ := (hout name o List.mem_cons_self hname).unchanged s.1 s.2
          exact Prod.ext hhost hdraws
        obtain ⟨hfinish, hresults⟩ := ih' s
        refine ⟨?_, ?_⟩
        · rw [hgone, hfinish, finish, finish, List.foldl_cons, hsame]
        · rw [hgone, hresults, results, List.filter_cons_of_neg (by simp [hname]), hsame]

end Happening

/-! ## Visits -/

namespace Visit
variable {σ : Type} (source : Source σ)

/-- What happens in a visit.  A call is told by the visit that it finds. -/
def happenings (v : Visit σ) : List (VisitStep σ) → List (Happening (Visit σ × HookCall))
  | [] => []
  | .call c :: steps =>
    .call (v, c) ⟨c, v.settings, v.request, (v.read source c).1⟩ ::
      (v.call source c).2.happenings steps
  | step :: steps =>
    .site (fun s =>
      let w := { v with host := s.1, draws := s.2 }.step source step
      (w.host, w.draws)) :: (v.step source step).happenings steps

/-- **Visits are runs.** -/
theorem plays_happenings (steps : List (VisitStep σ)) : ∀ v : Visit σ,
    Happening.finish (v.host, v.draws) (v.happenings source steps) =
        ((v.run source steps).host, (v.run source steps).draws) ∧
      Happening.results (v.host, v.draws) (v.happenings source steps) =
        (v.calls source steps).map fun call => (call, call.1.result source call.2) := by
  induction steps with
  | nil => exact fun v => ⟨rfl, rfl⟩
  | cons step steps ih =>
    intro v
    obtain ⟨hfinish, hresults⟩ := ih (v.step source step)
    cases step with
    | call c => exact ⟨hfinish, congrArg (List.cons _) hresults⟩
    | _ => exact ⟨hfinish, hresults⟩

end Visit

/-- **Skipped calls are invisible.**  Any of them can be left out of a run, and nothing else
changes; each leaves the host and the draws and answers nothing, or the error of its dataset in
the strict form, which is otherwise the same as the plain one.  Runs are all that visits can be,
whatever they read. -/
theorem skipped_calls_law {ι : Type} (run : List (Happening ι)) (out : ι → Bool)
    (hout : ∀ name o, Happening.call name o ∈ run → out name = true → o.IsSkipped)
    (s : Host × Draws) :
    Happening.CanDoWithout s run out ∧
      (∀ o : Encounter, o.SkipLaw) ∧
      ∀ {σ : Type} (source : Source σ) (v : Visit σ) (steps : List (VisitStep σ)),
        Happening.finish (v.host, v.draws) (v.happenings source steps) =
            ((v.run source steps).host, (v.run source steps).draws) ∧
          Happening.results (v.host, v.draws) (v.happenings source steps) =
            (v.calls source steps).map fun call => (call, call.1.result source call.2) :=
  ⟨Happening.without_skipped hout s, Encounter.skipLaw,
    fun source v steps => Visit.plays_happenings source steps v⟩

/-- A request from a shell that tells no address. -/
def Request.deviceless : Request :=
  { Request.flip "" with requester := ⟨none, some "ua", none, false⟩ }

/-- A call that meets a coin of the session scope. -/
def Encounter.ofCoin (c : HookCall) (r : Request) : Encounter :=
  ⟨c, .standard, r, .ok (.ofList [Entry.coin .session])⟩

/-- A call that meets a store that is out of order. -/
def Encounter.offline (c : HookCall) (r : Request) : Encounter :=
  ⟨c, .standard, r, .error (.backend "offline")⟩

/-- An administrator's request that carries a word for switching experiments off. -/
def Request.switching (word : String) : Request :=
  { Request.browse true with params := .ofList [("abconfig", word)] }

/-- A coin that is decided after login, after a login whose dataset could not be read, a call
without a device and one for which experiments were switched off, is decided as it would be
without the three. -/
theorem coin_skips_left_out :
    let off := Encounter.ofCoin (.evaluate .afterConfig) (.switching " Off ")
    let kept : Happening Nat := .call 3 (.ofCoin (.evaluate .afterRequireLogin) (.switching "on"))
    let run : List (Happening Nat) :=
      [.call 0 (.offline (.evaluateStrictly .afterRequireLogin) (.flip "")),
        .call 1 (.ofCoin (.evaluate .beforeSession) .deviceless), .call 2 off, kept]
    (off.run default (.constant 1)).answer = .report { Report.empty with disabled := true } ∧
      Happening.without (· < 3) run = [kept] ∧
      Happening.CanDoWithout (default, .constant 1) run (· < 3) := by
  intro off kept run
  refine ⟨by decide +kernel, rfl, ?_⟩
  refine (skipped_calls_law run (· < 3) (fun name o hmem hout => ?_) _).1
  simp only [run, kept, List.mem_cons, List.not_mem_nil, or_false, Happening.call.injEq] at hmem
  rcases hmem with ⟨rfl, rfl⟩ | ⟨rfl, rfl⟩ | ⟨rfl, rfl⟩ | ⟨rfl, rfl⟩
  · exact Or.inl ⟨_, rfl, rfl⟩
  · exact Or.inr (Or.inr rfl)
  · exact Or.inr (Or.inl (by decide +kernel))
  · cases hout

/-- The four words that switch experiments off, up to blanks and case, and some that do not. -/
example : ["0", " FALSE", "Off\n", "no", "on", "", "n o"].map isFalseWord =
    [true, true, true, true, false, false, false] := by
  decide +kernel

end SplitTest

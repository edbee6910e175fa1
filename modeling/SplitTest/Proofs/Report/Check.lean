import SplitTest.Report.Check
import SplitTest.Proofs.Hook.Accounting

/-!
# What the check foretells

The check reads the lines of a dataset and runs none.  A line is skipped as malformed exactly if
it cannot be read, whatever the host is when it runs (`Host.malformed_applyLine`): locked settings
and sent headers reject commands, which are lines that were read.  So the check lists of each
condition what executing it skips as malformed (`Report.check_law`), and a hook call reports
nothing as malformed but the problems of the conditions that fired.
-/

namespace SplitTest

open SplitTest.Store

/-! ## Malformed lines -/

namespace Rejection

/-- Whether a line was skipped as malformed. -/
def isMalformed (x : Rejection) : Bool :=
  match x.reason with
  | .malformed _ => true
  | _ => false

/-- The rejection of a line of an experiment that cannot be read. -/
def ofLine? (experiment line : String) : Option Rejection :=
  match Command.parse line with
  | .ok _ => none
  | .error fault => some ⟨experiment, line, .malformed fault⟩

end Rejection

/-- The lines of a list that cannot be read, as rejections of an experiment. -/
def CommandList.malformed (l : CommandList) (experiment : String) : List Rejection :=
  l.lines.filterMap (Rejection.ofLine? experiment)

namespace Host

/-- No command is malformed. -/
theorem apply_ne_malformed (h : Host) (x : String) (c : Command) (fault : MalformedCommand) :
    (h.apply x c).2 ≠ .rejected (.malformed fault) := by
  have hqueue (p : ScriptPosition) (body : String) :
      (h.queueScript p x body).2 ≠ .rejected (.malformed fault) := by
    simp only [queueScript]
    split <;> simp
  cases c with
  | cfg name value => simp only [apply]; split <;> simp [refuse]
  | forcedPluginSetting plugin name value => simp only [apply]; split <;> simp [refuse]
  | httpHeader name value => simp only [apply]; split <;> simp
  | errorLog message => simp [apply]
  | jsHeader body => exact hqueue .header body
  | jsFooter body => exact hqueue .footer body
  | unknown raw => simp [apply]

/-- **A line is skipped as malformed if it cannot be read**, on every host. -/
theorem malformed_applyLine (h : Host) (x line : String) :
    (LineRun.mk x line (h.applyLine x line).2).rejection?.filter Rejection.isMalformed =
      Rejection.ofLine? x line := by
  rw [applyLine, Rejection.ofLine?]
  cases Command.parse line with
  | error fault => rfl
  | ok c =>
    refine Option.filter_eq_none_iff.mpr fun y hy => ?_
    rw [LineRun.rejection?] at hy
    cases ho : (h.apply x c).2 with
    | applied => simp [ho] at hy
    | ignored => simp [ho] at hy
    | rejected reason =>
      obtain rfl : (⟨x, line, reason⟩ : Rejection) = y := by simpa [ho] using hy
      cases reason with
      | malformed fault => exact absurd ho (h.apply_ne_malformed x c fault)
      | _ => exact Bool.false_ne_true

theorem malformed_applyLines (x : String) (lines : List String) : ∀ h : Host,
    ((h.applyLines x lines).2.filterMap fun o =>
        (LineRun.mk x o.1 o.2).rejection?.filter Rejection.isMalformed) =
      lines.filterMap (Rejection.ofLine? x) := by
  induction lines with
  | nil => exact fun h => rfl
  | cons line lines ih =>
    intro h
    rw [List.filterMap_cons, ← ih (h.applyLine x line).1, ← malformed_applyLine h]
    rfl

/-- **What a batch skips as malformed** is what cannot be read of its lines, in order. -/
theorem malformed_lineRuns (batch : Batch) : ∀ h : Host,
    (ExecutionReport.ofLineRuns (h.lineRuns batch)).rejected.filter Rejection.isMalformed =
      batch.flatMap fun part => part.2.malformed part.1 := by
  induction batch with
  | nil => exact fun h => rfl
  | cons part batch ih =>
    intro h
    have hpart := h.malformed_applyLines part.1 part.2.lines
    have hrest := ih (h.execute part.1 part.2).1
    rw [ExecutionReport.ofLineRuns, List.filter_filterMap] at hrest ⊢
    rw [lineRuns, List.filterMap_append, List.filterMap_map, List.flatMap_cons, hrest]
    exact congrArg (· ++ _) hpart

theorem malformed_execute (h : Host) (x : String) (l : CommandList) :
    (h.execute x l).2.rejected.filter Rejection.isMalformed = l.malformed x := by
  have hbatch := malformed_lineRuns [(x, l)] h
  rw [lineRuns, lineRuns, List.append_nil, ← execute_snd] at hbatch
  simpa using hbatch

end Host

/-! ## Problems of a condition -/

namespace Report

/-- The rejection that a problem foretells. -/
def Problem.rejection (p : Problem) : Rejection := ⟨p.experiment, p.line, .malformed p.fault⟩

/-- The problems that the check lists for a condition of an experiment. -/
def problemsOf (d : Dataset) (experiment condset : String) : List Problem :=
  (check d).filter fun p => p.experiment == experiment && p.condset == condset

theorem map_rejection_conditionProblems (x : String) (c : Condition) :
    (conditionProblems x c).map Problem.rejection = c.commands.malformed x := by
  rw [conditionProblems, CommandList.malformed, CommandList.parsed, List.map_filterMap,
    List.filterMap_map]
  refine List.filterMap_congr fun line _ => ?_
  rw [Function.comp_apply, Rejection.ofLine?]
  cases Command.parse line <;> rfl

theorem of_mem_conditionProblems {x : String} {c : Condition} {p : Problem}
    (hp : p ∈ conditionProblems x c) : p.experiment = x ∧ p.condset = c.condset := by
  obtain ⟨⟨line, parsed⟩, -, hparsed⟩ := List.mem_filterMap.mp hp
  cases parsed with
  | ok command => cases hparsed
  | error fault =>
    obtain rfl := Option.some.inj hparsed
    exact ⟨rfl, rfl⟩

/-- **What the check lists for a condition are the problems of that condition.** -/
theorem problemsOf_eq (d : Dataset) (x y : String) : problemsOf d x y =
    (((d.find? x).bind fun e => e.condition? y).map (conditionProblems x)).getD [] := by
  have hexperiment : (check d).filter (fun p => p.experiment == x) =
      ((d.find? x).map fun e => e.conditions.items.flatMap (conditionProblems e.shortname)).getD
        [] := by
    refine filter_flatMap_of_nodup d.distinct (fun e _ p hp => ?_) x
    obtain ⟨c, -, hp⟩ := List.mem_flatMap.mp hp
    exact (of_mem_conditionProblems hp).1
  have hboth : problemsOf d x y =
      ((check d).filter fun p => p.experiment == x).filter fun p => p.condset == y := by
    rw [List.filter_filter, problemsOf]
    exact List.filter_congr fun p _ => Bool.and_comm _ _
  rw [hboth, hexperiment]
  cases he : d.find? x with
  | none => rfl
  | some e =>
    rw [← Keyed.key_of_find? he]
    exact filter_flatMap_of_nodup e.conditions.distinct
      (fun c _ p hp => (of_mem_conditionProblems hp).2) y

theorem problemsOf_of_mem {d : Dataset} {e : Entry} {c : Condition} (he : e ∈ d.items)
    (hc : c ∈ e.conditions.items) :
    problemsOf d e.shortname c.condset = conditionProblems e.shortname c := by
  rw [problemsOf_eq, Keyed.find?_of_mem he, Option.bind_some, Entry.condition?,
    Keyed.find?_of_mem hc]
  rfl

/-- The problems of what a firing tells of are those of its commands. -/
theorem map_rejection_problemsOf (d : Dataset) (f : Firing) :
    (problemsOf d f.experiment f.condset).map Problem.rejection =
      ((d.commands? f).map fun l => l.malformed f.experiment).getD [] := by
  rw [problemsOf_eq, Dataset.commands?, Option.map_map]
  cases (d.find? f.experiment).bind fun e => e.condition? f.condset with
  | none => rfl
  | some c => exact map_rejection_conditionProblems f.experiment c

theorem malformed_batch (d : Dataset) (fs : List Firing) :
    ((d.batch fs).flatMap fun part => part.2.malformed part.1) =
      fs.flatMap fun f => (problemsOf d f.experiment f.condset).map Problem.rejection := by
  induction fs with
  | nil => rfl
  | cons f fs ih =>
    rw [List.flatMap_cons, map_rejection_problemsOf, ← ih]
    cases hf : d.commands? f with
    | none => rw [Dataset.batch_cons_of_none hf]; rfl
    | some l => rw [Dataset.batch_cons_of_some hf]; rfl

end Report

/-! ## Calls -/

/-- **What a call reports as malformed** are the problems of the conditions that fired, in the
order in which they did. -/
theorem HookCall.malformed_run {c : HookCall} {s : Settings} {r : Request} {d : Dataset}
    {read : Except StoreError Dataset} {h : Host} {draws : Draws} {report : Report}
    (hread : ∀ d', c.readsDataset s r = true → read = .ok d' → d' = d)
    (ha : (c.run s r read h draws).answer = .report report) :
    report.execution.rejected.filter Rejection.isMalformed =
      report.firings.flatMap fun f =>
        (Report.problemsOf d f.experiment f.condset).map Report.Problem.rejection := by
  rcases c.run_cases s r read h draws with ⟨k, device, d', hc, hg, rfl, -⟩ | ⟨-, hidle⟩
  · obtain rfl := hread d' (readsDataset_of_gate hc hg) rfl
    rw [(run_work ha).2, Host.malformed_lineRuns, Report.malformed_batch]
  · rcases (hidle.report report ha).2 with rfl | rfl <;> rfl

/-- A run reads one dataset, whenever it can read any. -/
def Visit.ReadsOnly {σ : Type} (source : Source σ) (v : Visit σ) (d : Dataset)
    (steps : List (VisitStep σ)) : Prop :=
  ∀ w c d', (w, c) ∈ v.calls source steps → c.readsDataset w.settings w.request = true →
    (w.read source c).1 = .ok d' → d' = d

namespace Report

/-- **The law of the check** of a dataset. -/
structure CheckLaw (d : Dataset) : Prop where
  /-- It lists the problems of every condition of every experiment, in stored order. -/
  ordered : check d = d.items.flatMap fun e =>
    e.conditions.items.flatMap fun c => problemsOf d e.shortname c.condset
  /-- What it lists for a condition are the lines that executing the condition skips as
  malformed, on every host. -/
  foretells : ∀ e ∈ d.items, ∀ c ∈ e.conditions.items, ∀ h : Host,
    (problemsOf d e.shortname c.condset).map Problem.rejection =
      (h.execute e.shortname c.commands).2.rejected.filter Rejection.isMalformed
  /-- It gives them with the texts of their reasons. -/
  explains : ∀ e ∈ d.items, ∀ c ∈ e.conditions.items, ∀ h : Host,
    ((problemsOf d e.shortname c.condset).map fun p => (p.line, p.fault.message)) =
      ((h.execute e.shortname c.commands).2.rejected.filter Rejection.isMalformed).map
        fun x => (x.line, x.reason.message)
  /-- In a run over the dataset every report has the problems of what it fired as its malformed
  lines. -/
  reported : ∀ {σ : Type} (source : Source σ) (v : Visit σ) (steps : List (VisitStep σ)),
    v.ReadsOnly source d steps → ∀ w c report, (w, c) ∈ v.calls source steps →
      (w.call source c).1 = .report report →
      report.execution.rejected.filter Rejection.isMalformed =
        report.firings.flatMap fun f =>
          (problemsOf d f.experiment f.condset).map Problem.rejection
  /-- If it lists nothing, no run over the dataset reports a malformed line. -/
  clean : check d = [] → ∀ {σ : Type} (source : Source σ) (v : Visit σ)
    (steps : List (VisitStep σ)), v.ReadsOnly source d steps →
    ∀ w c report, (w, c) ∈ v.calls source steps → (w.call source c).1 = .report report →
      ∀ x ∈ report.execution.rejected, ∀ fault, x.reason ≠ .malformed fault

/-- **The check foretells what is skipped as malformed**, and nothing else is. -/
theorem check_law (d : Dataset) : CheckLaw d := by
  have hforetells e (he : e ∈ d.items) c (hc : c ∈ e.conditions.items) (h : Host) :
      (problemsOf d e.shortname c.condset).map Problem.rejection =
        (h.execute e.shortname c.commands).2.rejected.filter Rejection.isMalformed := by
    rw [problemsOf_of_mem he hc, map_rejection_conditionProblems, h.malformed_execute]
  have hreported {σ : Type} (source : Source σ) (v : Visit σ) (steps : List (VisitStep σ))
      (hv : v.ReadsOnly source d steps) w c report (hw : (w, c) ∈ v.calls source steps)
      (ha : (w.call source c).1 = .report report) :
      report.execution.rejected.filter Rejection.isMalformed = report.firings.flatMap fun f =>
        (problemsOf d f.experiment f.condset).map Problem.rejection :=
    HookCall.malformed_run (fun d' => hv w c d' hw) ha
  refine ⟨?_, hforetells, fun e he c hc h => ?_, hreported, ?_⟩
  · refine List.flatMap_congr fun e he => List.flatMap_congr fun c hc => ?_
    exact (problemsOf_of_mem he hc).symm
  · rw [← hforetells e he c hc h, List.map_map]
    rfl
  · rintro hclean σ source v steps hv w c report hw ha x hx fault hreason
    have hmalformed : x ∈ report.execution.rejected.filter Rejection.isMalformed :=
      List.mem_filter.mpr ⟨hx, by rw [Rejection.isMalformed, hreason]⟩
    -- it would be a problem of something that fired
    rw [hreported source v steps hv w c report hw ha] at hmalformed
    obtain ⟨f, -, hf⟩ := List.mem_flatMap.mp hmalformed
    rw [problemsOf, hclean] at hf
    cases hf

/-- Of the two lines that a themed site skips, the check foretells the one without a field. -/
theorem twiceGiven_checked :
    let d : Dataset := .ofGroups twiceGiven
    let v : Visit (Except StoreError Dataset) :=
      ⟨.ok d, .standard, .browse false, { Host.empty with config := .themed }, .constant 1, []⟩
    check d = [⟨"coin", "heads", "js_header", ⟨.jsHeader, 1⟩⟩] ∧
      ∃ report, (v.call .fixed (.evaluate .afterConfig)).1 = .report report ∧
        report.execution.rejected.length = 2 ∧
        report.execution.rejected.filter Rejection.isMalformed =
          [⟨"coin", "js_header", .malformed ⟨.jsHeader, 1⟩⟩] := by
  intro d v
  have hv : v.ReadsOnly .fixed d [.call (.evaluate .afterConfig)] := by
    rintro w c d' hw - hd
    simp only [Visit.calls, List.mem_singleton, Prod.mk.injEq] at hw
    obtain ⟨rfl, rfl⟩ := hw
    exact (Except.ok.inj hd).symm
  refine ⟨by decide, _, rfl, by decide, ?_⟩
  rw [(check_law d).reported .fixed v _ hv v _ _ List.mem_cons_self rfl]
  decide

end Report

end SplitTest

import SplitTest.Proofs.Host.Batch

/-!
# What a batch adds up to

Each line of a batch runs once, in order (`Host.lines_lineRuns`), and is counted once: as
applied, as ignored, or as a rejection (`ExecutionReport.total_ofLineRuns`).  Rejections stand
in the order of the lines (`ExecutionReport.rejected_sublist`), and the log gets one warning
for each rejection of a refused write and no other (`Host.warnings_carryOut`).
-/

namespace SplitTest

/-- The lines of a batch in order, each with the experiment that it belongs to. -/
def Batch.lines (batch : Batch) : List (String × String) :=
  batch.flatMap fun part => part.2.lines.map fun line => (part.1, line)

theorem Batch.lines_cons (part : String × CommandList) (batch : Batch) :
    Batch.lines (part :: batch) = part.2.lines.map (fun line => (part.1, line)) ++ batch.lines :=
  List.flatMap_cons

namespace Rejection

/-- The experiment and the line. -/
def place (x : Rejection) : String × String := (x.experiment, x.line)

/-- What the site's log is told of a refused write; of other rejections it is told nothing. -/
def warning? (x : Rejection) : Option String :=
  match x.reason with
  | .configAlreadySet _ | .pluginSettingAlreadySet .. => some ("abconfig: " ++ x.reason.message)
  | .headersAlreadySent _ | .malformed _ => none

end Rejection

namespace LineRun

/-- The experiment and the line. -/
def place (run : LineRun) : String × String := (run.experiment, run.line)

/-- What the site's log is told of a line that ran. -/
def warning? (run : LineRun) : Option String := run.rejection?.bind Rejection.warning?

theorem place_of_rejection? {run : LineRun} {x : Rejection} (h : run.rejection? = some x) :
    x.place = run.place := by
  unfold rejection? at h
  split at h
  · obtain rfl := Option.some.inj h
    rfl
  · cases h

end LineRun

namespace ExecutionReport

/-- **Every line that ran is counted once.** -/
theorem total_ofLineRuns (runs : List LineRun) :
    (ofLineRuns runs).applied + (ofLineRuns runs).ignored + (ofLineRuns runs).rejected.length =
      runs.length := by
  induction runs with
  | nil => rfl
  | cons run runs ih =>
    have hone : (ofLineRuns [run]).applied + (ofLineRuns [run]).ignored +
        (ofLineRuns [run]).rejected.length = 1 := by
      obtain ⟨x, line, outcome⟩ := run
      cases outcome <;> rfl
    have happend := ofLineRuns_append [run] runs
    rw [List.singleton_append] at happend
    rw [happend, List.length_cons]
    simp only [merge, List.length_append]
    omega

/-- **Rejections stand in the order of the lines.** -/
theorem rejected_sublist (runs : List LineRun) :
    ((ofLineRuns runs).rejected.map Rejection.place).Sublist (runs.map LineRun.place) := by
  induction runs with
  | nil => exact .slnil
  | cons run runs ih =>
    simp only [ofLineRuns] at ih ⊢
    cases hx : run.rejection? with
    | none =>
      rw [List.filterMap_cons_none hx]
      exact ih.cons run.place
    | some x =>
      rw [List.filterMap_cons_some hx, List.map_cons, LineRun.place_of_rejection? hx]
      exact ih.cons_cons run.place

/-- The warnings of a report are those of its lines. -/
theorem warnings_ofLineRuns (runs : List LineRun) :
    (ofLineRuns runs).rejected.filterMap Rejection.warning? = runs.filterMap LineRun.warning? :=
  List.filterMap_filterMap

end ExecutionReport

namespace Host

/-! ## The lines that run -/

theorem fst_applyLines (x : String) (lines : List String) :
    ∀ h : Host, (h.applyLines x lines).2.map Prod.fst = lines := by
  induction lines with
  | nil => exact fun h => rfl
  | cons line lines ih => exact fun h => congrArg (List.cons line) (ih (h.applyLine x line).1)

/-- **Each line of a batch runs once**, in order. -/
theorem lines_lineRuns (batch : Batch) :
    ∀ h : Host, (h.lineRuns batch).map LineRun.place = batch.lines := by
  induction batch with
  | nil => exact fun h => rfl
  | cons part batch ih =>
    intro h
    have hpart : (h.applyLines part.1 part.2.lines).2.map (fun o => (part.1, o.1)) =
        part.2.lines.map fun line => (part.1, line) := by
      conv_rhs => rw [← fst_applyLines part.1 part.2.lines h]
      rw [List.map_map]
      rfl
    rw [lineRuns, List.map_append, List.map_map, ih, Batch.lines_cons, ← hpart]
    rfl

/-! ## Warnings -/

/-- **A line adds the warning of its own rejection.** -/
theorem warnings_applyLine (h : Host) (x line : String) :
    (h.applyLine x line).1.log.warnings =
      h.log.warnings ++ (LineRun.warning? ⟨x, line, (h.applyLine x line).2⟩).toList := by
  have hquiet {h' : Host} {outcome : LineOutcome} (hlog : h'.log.warnings = h.log.warnings)
      (hnone : LineRun.warning? ⟨x, line, outcome⟩ = none) :
      h'.log.warnings = h.log.warnings ++ (LineRun.warning? ⟨x, line, outcome⟩).toList := by
    rw [hnone, hlog, Option.toList_none, List.append_nil]
  have hqueue (p : ScriptPosition) (body : String) :
      (h.queueScript p x body).1.log.warnings = h.log.warnings ++
        (LineRun.warning? ⟨x, line, (h.queueScript p x body).2⟩).toList := by
    unfold queueScript
    dsimp only
    split <;> exact hquiet rfl rfl
  unfold applyLine
  cases Command.parse line with
  | error fault => exact hquiet rfl rfl
  | ok c =>
    cases c with
    | cfg name value =>
      simp only [apply]
      split
      · rfl
      · exact hquiet rfl rfl
    | forcedPluginSetting p name value =>
      simp only [apply]
      split
      · rfl
      · exact hquiet rfl rfl
    | httpHeader name value =>
      simp only [apply]
      split <;> exact hquiet rfl rfl
    | errorLog message => exact hquiet rfl rfl
    | jsHeader body => exact hqueue .header body
    | jsFooter body => exact hqueue .footer body
    | unknown raw => exact hquiet rfl rfl

theorem warnings_applyLines (x : String) (lines : List String) : ∀ h : Host,
    (h.applyLines x lines).1.log.warnings = h.log.warnings ++
      (h.applyLines x lines).2.filterMap fun o => LineRun.warning? ⟨x, o.1, o.2⟩ := by
  induction lines with
  | nil => exact fun h => (List.append_nil _).symm
  | cons line lines ih =>
    intro h
    have hrest := ih (h.applyLine x line).1
    rw [warnings_applyLine] at hrest
    show ((h.applyLine x line).1.applyLines x lines).1.log.warnings = _
    rw [hrest, applyLines, List.filterMap_cons, List.append_assoc]
    cases LineRun.warning? ⟨x, line, (h.applyLine x line).2⟩ <;> rfl

/-- **A batch adds the warnings of its rejections**, in order, and no others. -/
theorem warnings_carryOut (batch : Batch) : ∀ h : Host,
    (h.carryOut batch).log.warnings =
      h.log.warnings ++ (h.lineRuns batch).filterMap LineRun.warning? := by
  induction batch with
  | nil => exact fun h => (List.append_nil _).symm
  | cons part batch ih =>
    intro h
    have hrest := ih (h.execute part.1 part.2).1
    rw [execute_fst, warnings_applyLines] at hrest
    rw [carryOut_cons, execute_fst, hrest, lineRuns, List.filterMap_append, List.filterMap_map,
      List.append_assoc]
    rfl

end Host

end SplitTest

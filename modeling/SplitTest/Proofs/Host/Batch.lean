import SplitTest.Proofs.Host.ConfigKey

/-!
# Batches

A batch is command lists in order, each of an experiment.  Carrying out a batch runs the
lines of all its lists, one after another (`Host.carryOut`), and something becomes of each
line (`Host.lineRuns`).  What every line of a batch preserves the batch preserves
(`Host.carryOut_induction`), so that facts about batches come from facts about one line.

The configuration that a batch leaves depends on nothing but the configuration that it
found (`Host.config_carryOut_congr`), and a key that one of its lines writes has a value
afterwards, written or not (`Host.isSome_read?_carryOut`).
-/

namespace SplitTest

/-- Command lists in order, each of an experiment. -/
abbrev Batch := List (String × CommandList)

/-- No line of a batch writes a key. -/
def Batch.Spares (batch : Batch) (k : ConfigKey) : Prop :=
  ∀ part ∈ batch, ∀ line ∈ part.2.lines, ConfigKey.ofLine? line ≠ some k

instance (batch : Batch) (k : ConfigKey) : Decidable (batch.Spares k) :=
  inferInstanceAs (Decidable (∀ part ∈ batch, ∀ line ∈ part.2.lines, _ ≠ _))

/-- A line of an experiment that ran, and what became of it. -/
structure LineRun where
  /-- The experiment it belongs to. -/
  experiment : String
  /-- The line as stored. -/
  line : String
  /-- What became of it. -/
  outcome : LineOutcome
deriving DecidableEq, Repr

namespace LineRun

/-- What a report says of a line that was skipped. -/
def rejection? (run : LineRun) : Option Rejection :=
  match run.outcome with
  | .rejected reason => some ⟨run.experiment, run.line, reason⟩
  | _ => none

end LineRun

namespace ExecutionReport

/-- The tally of lines that ran. -/
def ofLineRuns (runs : List LineRun) : ExecutionReport where
  applied := runs.countP fun run => run.outcome = .applied
  ignored := runs.countP fun run => run.outcome = .ignored
  rejected := runs.filterMap LineRun.rejection?

@[simp] theorem ofLineRuns_nil : ofLineRuns [] = empty := rfl

@[simp] theorem empty_merge (r : ExecutionReport) : empty.merge r = r := by
  simp [merge, empty]

theorem merge_assoc (r s t : ExecutionReport) : (r.merge s).merge t = r.merge (s.merge t) := by
  simp only [merge, Nat.add_assoc, List.append_assoc]

theorem ofLineRuns_append (runs runs' : List LineRun) :
    ofLineRuns (runs ++ runs') = (ofLineRuns runs).merge (ofLineRuns runs') := by
  simp only [ofLineRuns, merge, List.countP_append, List.filterMap_append]

theorem ofOutcomes_eq (x : String) (outcomes : List (String × LineOutcome)) :
    ofOutcomes x outcomes = ofLineRuns (outcomes.map fun o => ⟨x, o.1, o.2⟩) := by
  simp only [ofOutcomes, ofLineRuns, List.countP_map, List.filterMap_map]
  rfl

/-- The rejections of some lines are those of the tally of these lines. -/
theorem filter_rejected_ofOutcomes (x : String) (p : String → Bool)
    (outcomes : List (String × LineOutcome)) :
    (ofOutcomes x outcomes).rejected.filter (fun r => p r.line) =
      (ofOutcomes x (outcomes.filter fun o => p o.1)).rejected := by
  induction outcomes with
  | nil => rfl
  | cons o outcomes ih =>
    obtain ⟨line, outcome⟩ := o
    simp only [ofOutcomes] at ih ⊢
    cases hp : p line <;> cases outcome <;> simp [hp, ih]

end ExecutionReport

namespace Host

/-- The host after the lists of a batch were executed in order. -/
def carryOut (h : Host) (batch : Batch) : Host :=
  batch.foldl (fun h part => (h.execute part.1 part.2).1) h

/-- The lines of a batch, with what becomes of each. -/
def lineRuns (h : Host) : Batch → List LineRun
  | [] => []
  | (x, l) :: batch =>
    ((h.applyLines x l.lines).2.map fun o => ⟨x, o.1, o.2⟩) ++ (h.execute x l).1.lineRuns batch

@[simp] theorem carryOut_cons (h : Host) (part : String × CommandList) (batch : Batch) :
    h.carryOut (part :: batch) = (h.execute part.1 part.2).1.carryOut batch := rfl

theorem carryOut_append (h : Host) (batch batch' : Batch) :
    h.carryOut (batch ++ batch') = (h.carryOut batch).carryOut batch' :=
  List.foldl_append

theorem execute_fst (h : Host) (x : String) (l : CommandList) :
    (h.execute x l).1 = (h.applyLines x l.lines).1 := rfl

theorem execute_snd (h : Host) (x : String) (l : CommandList) :
    (h.execute x l).2 = .ofLineRuns ((h.applyLines x l.lines).2.map fun o => ⟨x, o.1, o.2⟩) :=
  ExecutionReport.ofOutcomes_eq x _

/-! ## From lines to batches -/

section
variable {P : Host → Prop} {Q : LineRun → Prop}

theorem applyLines_induction {x : String} {lines : List String}
    (hline : ∀ h, ∀ line ∈ lines, P h →
      P (h.applyLine x line).1 ∧ Q ⟨x, line, (h.applyLine x line).2⟩) :
    ∀ {h : Host}, P h →
      P (h.applyLines x lines).1 ∧ ∀ o ∈ (h.applyLines x lines).2, Q ⟨x, o.1, o.2⟩ := by
  induction lines with
  | nil =>
    intro h hP
    exact ⟨hP, by rintro o ⟨⟩⟩
  | cons line lines ih =>
    intro h hP
    obtain ⟨hP', hQ⟩ := hline h line List.mem_cons_self hP
    obtain ⟨hend, hall⟩ := ih (fun h' l hl => hline h' l (List.mem_cons_of_mem line hl)) hP'
    refine ⟨hend, fun o ho => ?_⟩
    rcases List.mem_cons.mp ho with rfl | ho
    · exact hQ
    · exact hall o ho

/-- What every line of a list preserves, the list preserves. -/
theorem applyLines_invariant {x : String} {lines : List String}
    (hline : ∀ h, ∀ line ∈ lines, P h → P (h.applyLine x line).1) {h : Host} (hP : P h) :
    P (h.applyLines x lines).1 :=
  (applyLines_induction (Q := fun _ => True)
    (fun h line hmem hP => ⟨hline h line hmem hP, trivial⟩) hP).1

/-- What a line of a list brings about holds after the list, if every line preserves it. -/
theorem applyLines_of_mem {x line : String} {lines : List String} (hmem : line ∈ lines)
    (hmade : ∀ h : Host, P (h.applyLine x line).1)
    (hkept : ∀ h, ∀ line ∈ lines, P h → P (h.applyLine x line).1) :
    ∀ h : Host, P (h.applyLines x lines).1 := by
  induction lines with
  | nil => cases hmem
  | cons first lines ih =>
    intro h
    have hkept' h line (hmem : line ∈ lines) := hkept h line (List.mem_cons_of_mem first hmem)
    show P ((h.applyLine x first).1.applyLines x lines).1
    rcases List.mem_cons.mp hmem with rfl | hmem
    · exact applyLines_invariant hkept' (hmade h)
    · exact ih hmem hkept' (h.applyLine x first).1

/-- **What every line of a batch preserves, the batch preserves**, and what holds of every
line that ran on the way holds of all of them. -/
theorem carryOut_induction {batch : Batch}
    (hline : ∀ h, ∀ part ∈ batch, ∀ line ∈ part.2.lines, P h →
      P (h.applyLine part.1 line).1 ∧ Q ⟨part.1, line, (h.applyLine part.1 line).2⟩) :
    ∀ {h : Host}, P h → P (h.carryOut batch) ∧ ∀ run ∈ h.lineRuns batch, Q run := by
  induction batch with
  | nil =>
    intro h hP
    exact ⟨hP, by rintro run ⟨⟩⟩
  | cons part batch ih =>
    intro h hP
    obtain ⟨hP', hruns⟩ := applyLines_induction
      (fun h' line hl => hline h' part List.mem_cons_self line hl) hP
    obtain ⟨hend, hall⟩ := ih (fun h' p hp => hline h' p (List.mem_cons_of_mem part hp)) hP'
    refine ⟨hend, fun run hrun => ?_⟩
    rcases List.mem_append.mp hrun with hrun | hrun
    · obtain ⟨o, ho, rfl⟩ := List.mem_map.mp hrun
      exact hruns o ho
    · exact hall run hrun

end

/-! ## What a batch depends on -/

/-- A line does the same on every session, and leaves it. -/
theorem applyLine_withSession (h : Host) (session : Session) (x line : String) :
    { h with session := session }.applyLine x line =
      ({ (h.applyLine x line).1 with session := session }, (h.applyLine x line).2) := by
  -- no command reads the session
  have hqueue (p : ScriptPosition) (body : String) :
      { h with session := session }.queueScript p x body =
        ({ (h.queueScript p x body).1 with session := session }, (h.queueScript p x body).2) := by
    simp only [queueScript]
    split <;> rfl
  unfold applyLine
  cases Command.parse line with
  | error fault => rfl
  | ok cmd =>
    cases cmd with
    | cfg name value => simp only [apply]; split <;> rfl
    | forcedPluginSetting p name value => simp only [apply]; split <;> rfl
    | httpHeader name value => simp only [apply]; split <;> rfl
    | errorLog message => rfl
    | jsHeader body => exact hqueue .header body
    | jsFooter body => exact hqueue .footer body
    | unknown raw => rfl

theorem applyLines_withSession (session : Session) (x : String) (lines : List String) :
    ∀ h : Host, { h with session := session }.applyLines x lines =
      ({ (h.applyLines x lines).1 with session := session }, (h.applyLines x lines).2) := by
  induction lines with
  | nil => intro h; rfl
  | cons line lines ih =>
    intro h
    simp only [applyLines, applyLine_withSession, ih]

@[simp] theorem session_execute (h : Host) (x : String) (l : CommandList) :
    (h.execute x l).1.session = h.session :=
  congrArg (fun run => run.1.session) (applyLines_withSession h.session x l.lines h)

/-- A batch does the same on every session, and leaves it. -/
theorem carryOut_withSession (session : Session) (batch : Batch) :
    ∀ h : Host, { h with session := session }.carryOut batch =
        { h.carryOut batch with session := session } ∧
      { h with session := session }.lineRuns batch = h.lineRuns batch := by
  induction batch with
  | nil => intro h; exact ⟨rfl, rfl⟩
  | cons part batch ih =>
    intro h
    obtain ⟨hhost, hruns⟩ := ih (h.applyLines part.1 part.2.lines).1
    simp only [carryOut_cons, lineRuns, execute_fst, applyLines_withSession]
    exact ⟨hhost, congrArg _ hruns⟩

/-- What a line leaves of the configuration depends on the configuration alone. -/
theorem config_applyLine_congr {h h' : Host} (hc : h.config = h'.config) (x line : String) :
    (h.applyLine x line).1.config = (h'.applyLine x line).1.config := by
  unfold applyLine
  cases Command.parse line with
  | error fault => exact hc
  | ok cmd =>
    cases hkey : ConfigKey.ofCommand? cmd with
    | none =>
      show (h.apply x cmd).1.config = (h'.apply x cmd).1.config
      rw [config_apply_of_none h x hkey, config_apply_of_none h' x hkey, hc]
    | some k =>
      -- whether the key is locked is read from the configuration
      obtain ⟨value, rfl⟩ := ConfigKey.ofCommand?_eq_some_iff.mp hkey
      show (h.apply x _).1.config = (h'.apply x _).1.config
      rw [apply_command, apply_command, hc]
      split
      · exact hc
      · rfl

theorem config_applyLines_congr (x : String) (lines : List String) :
    ∀ {h h' : Host}, h.config = h'.config →
      (h.applyLines x lines).1.config = (h'.applyLines x lines).1.config := by
  induction lines with
  | nil => exact id
  | cons line lines ih => exact fun hc => ih (config_applyLine_congr hc x line)

/-- **What a batch leaves of the configuration depends on the configuration alone.** -/
theorem config_carryOut_congr (batch : Batch) :
    ∀ {h h' : Host}, h.config = h'.config →
      (h.carryOut batch).config = (h'.carryOut batch).config := by
  induction batch with
  | nil => exact id
  | cons part batch ih => exact fun hc => ih (config_applyLines_congr part.1 part.2.lines hc)

/-! ## Keys that were written -/

section
variable {k : ConfigKey}

/-- A line leaves the key that it writes with a value: its own, or the one that the key is
locked with. -/
theorem isSome_read?_applyLine_of_eq {h : Host} {x line : String}
    (hk : ConfigKey.ofLine? line = some k) :
    (k.read? (h.applyLine x line).1.config).isSome = true := by
  cases hlocked : k.isLocked h.config with
  | true =>
    rw [(applyLine_of_isLocked hk hlocked).1]
    exact ConfigKey.isSome_read?_of_isHeld (Bool.and_eq_true_iff.mp hlocked).1
  | false => exact (isSome_read?_applyLine_of_isLocked_eq_false hk hlocked).1

/-- No batch takes a value away. -/
theorem isSome_read?_carryOut {h : Host} {batch : Batch} (hk : (k.read? h.config).isSome = true) :
    (k.read? (h.carryOut batch).config).isSome = true :=
  (carryOut_induction (P := fun h => (k.read? h.config).isSome = true) (Q := fun _ => True)
    (fun _ _ _ _ _ hk => ⟨isSome_read?_applyLine hk, trivial⟩) hk).1

theorem isSome_read?_applyLines_of_mem {x line : String} {lines : List String}
    (hline : line ∈ lines) (hk : ConfigKey.ofLine? line = some k) :
    ∀ h : Host, (k.read? (h.applyLines x lines).1.config).isSome = true :=
  applyLines_of_mem (P := fun h => (k.read? h.config).isSome = true) hline
    (fun _ => isSome_read?_applyLine_of_eq hk) fun _ _ _ => isSome_read?_applyLine

/-- **A key that a batch does not spare has a value after it.** -/
theorem isSome_read?_carryOut_of_not_spares {batch : Batch} (hbatch : ¬batch.Spares k) :
    ∀ h : Host, (k.read? (h.carryOut batch).config).isSome = true := by
  induction batch with
  | nil => exact absurd (by rintro part ⟨⟩) hbatch
  | cons part batch ih =>
    intro h
    rw [carryOut_cons, execute_fst]
    by_cases hfirst : ∃ line ∈ part.2.lines, ConfigKey.ofLine? line = some k
    · obtain ⟨line, hline, hk⟩ := hfirst
      exact isSome_read?_carryOut (isSome_read?_applyLines_of_mem hline hk h)
    · -- then a later list writes the key
      refine ih (fun hrest => hbatch ?_) (h.applyLines part.1 part.2.lines).1
      refine List.forall_mem_cons.mpr ⟨fun line hline hk => hfirst ⟨line, hline, hk⟩, hrest⟩

end

end Host

end SplitTest

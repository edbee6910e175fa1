import SplitTest.Proofs.Host.Batch

/-!
# Assignments

An assignment gives a value to a key of the configuration.  Some command lines are written
to make one (`CommandList.assignments`), and of these the ones that are applied do
(`Host.made`).  The configuration that a batch leaves is the one that it found, with the
assignments made on the way, in order (`Host.config_carryOut_eq`): nothing else sets a name
of the site or forces one of a plugin.
-/

namespace SplitTest

/-- A key with the value that it is given. -/
structure Assignment where
  key : ConfigKey
  value : String
deriving DecidableEq, Repr

namespace Assignment

/-- The assignment that a command is to make. -/
def ofCommand? : Command → Option Assignment
  | .cfg name value => some ⟨.site name, value⟩
  | .forcedPluginSetting p name value => some ⟨.plugin p name, value⟩
  | _ => none

/-- The assignment that a line is to make. -/
def ofLine? (line : String) : Option Assignment := (Command.parse line).toOption.bind ofCommand?

/-- The configuration with the value given to the key. -/
def write (a : Assignment) (c : SiteConfig) : SiteConfig := a.key.write c a.value

theorem ofCommand?_command (a : Assignment) : ofCommand? (a.key.command a.value) = some a := by
  obtain ⟨key, value⟩ := a
  cases key <;> rfl

/-- A command that writes a key is to make an assignment. -/
theorem key_ofCommand? (cmd : Command) :
    (ofCommand? cmd).map key = ConfigKey.ofCommand? cmd := by
  cases cmd <;> rfl

theorem ofCommand?_eq_some_iff {cmd : Command} {a : Assignment} :
    ofCommand? cmd = some a ↔ cmd = a.key.command a.value := by
  constructor
  · intro h
    cases cmd with
    | cfg name value =>
      obtain rfl := Option.some.inj h
      rfl
    | forcedPluginSetting p name value =>
      obtain rfl := Option.some.inj h
      rfl
    | _ => cases h
  · rintro rfl
    exact ofCommand?_command a

theorem ofLine?_eq_some_iff {line : String} {a : Assignment} :
    ofLine? line = some a ↔ Command.parse line = .ok (a.key.command a.value) := by
  rw [ofLine?, Option.bind_eq_some_iff]
  cases Command.parse line with
  | error fault => simp [Except.toOption]
  | ok cmd => simp [Except.toOption, ofCommand?_eq_some_iff]

end Assignment

/-- The assignments that the lines of a list are to make, in order. -/
def CommandList.assignments (l : CommandList) : List Assignment :=
  l.lines.filterMap Assignment.ofLine?

/-- The assignment that a line made which ran. -/
def LineRun.made? (run : LineRun) : Option Assignment :=
  if run.outcome = .applied then Assignment.ofLine? run.line else none

namespace Host

/-- The assignments that a batch makes, in order. -/
def made (h : Host) (batch : Batch) : List Assignment :=
  (h.lineRuns batch).filterMap LineRun.made?

/-- The configuration after assignments. -/
def assigned (c : SiteConfig) (as : List Assignment) : SiteConfig :=
  as.foldl (fun c a => a.write c) c

/-- **A line changes the configuration by the assignment that it makes.** -/
theorem config_applyLine_eq (h : Host) (x line : String) :
    (h.applyLine x line).1.config =
      assigned h.config (LineRun.made? ⟨x, line, (h.applyLine x line).2⟩).toList := by
  unfold applyLine LineRun.made? Assignment.ofLine?
  cases Command.parse line with
  | error fault => rfl
  | ok cmd =>
    show (h.apply x cmd).1.config = assigned h.config
      (if (h.apply x cmd).2 = .applied then Assignment.ofCommand? cmd else none).toList
    cases ha : Assignment.ofCommand? cmd with
    | none =>
      have hkey : ConfigKey.ofCommand? cmd = none := by
        rw [← Assignment.key_ofCommand?, ha]
        rfl
      rw [config_apply_of_none h x hkey, ite_self]
      rfl
    | some a =>
      rw [Assignment.ofCommand?_eq_some_iff.mp ha, apply_command]
      cases a.key.isLocked h.config with
      | true => rfl
      | false => rfl

theorem config_applyLines_eq (x : String) (lines : List String) : ∀ h : Host,
    (h.applyLines x lines).1.config = assigned h.config
      ((h.applyLines x lines).2.filterMap fun o => LineRun.made? ⟨x, o.1, o.2⟩) := by
  induction lines with
  | nil => exact fun h => rfl
  | cons line lines ih =>
    intro h
    have hrest := ih (h.applyLine x line).1
    rw [config_applyLine_eq] at hrest
    show ((h.applyLine x line).1.applyLines x lines).1.config = _
    rw [hrest, assigned, assigned, ← List.foldl_append]
    congr 1
    rw [applyLines, List.filterMap_cons]
    cases LineRun.made? ⟨x, line, (h.applyLine x line).2⟩ <;> rfl

/-- **A batch changes the configuration by the assignments that it makes**, in order. -/
theorem config_carryOut_eq (batch : Batch) : ∀ h : Host,
    (h.carryOut batch).config = assigned h.config (h.made batch) := by
  induction batch with
  | nil => exact fun h => rfl
  | cons part batch ih =>
    intro h
    have hrest := ih (h.execute part.1 part.2).1
    rw [execute_fst, config_applyLines_eq] at hrest
    rw [carryOut_cons, execute_fst, hrest, assigned, assigned, ← List.foldl_append]
    congr 1
    rw [made, made, lineRuns, List.filterMap_append, List.filterMap_map]
    rfl

/-- What a batch makes, one of its lines was to make. -/
theorem mem_assignments_of_mem_made {h : Host} {batch : Batch} {a : Assignment}
    (ha : a ∈ h.made batch) : ∃ part ∈ batch, a ∈ part.2.assignments := by
  obtain ⟨run, hrun, hmade⟩ := List.mem_filterMap.mp ha
  have hlines := (carryOut_induction (P := fun _ => True)
    (Q := fun run => ∃ part ∈ batch, run.line ∈ part.2.lines)
    (fun _ part hpart line hline _ => ⟨trivial, part, hpart, hline⟩) (h := h) trivial).2
  obtain ⟨part, hpart, hline⟩ := hlines run hrun
  rw [LineRun.made?, Option.ite_none_right_eq_some] at hmade
  exact ⟨part, hpart, List.mem_filterMap.mpr ⟨run.line, hline, hmade.2⟩⟩

end Host

end SplitTest

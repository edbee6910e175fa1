import SplitTest.Proofs.Store.Frame
import SplitTest.Proofs.Text.Blank
import SplitTest.Proofs.UserSet

/-!
# What was stored is read again

A stored command list is read as the list that was stored, also with blanks around it, so no
two lists have one stored form (`CommandList.ofStored_padded`, `CommandList.stored_injective`).

An operation that writes a condition files a record that holds what the operator gave for it,
and no other record is new (`Action.Files`).  That is a matter of the steps of the operation:
all but one of them leave the records alone, and the operation answers only if that one was
taken.  In what state the tables are, and which calls of the store are out of order, does not
matter (`decoding_law`).
-/

namespace SplitTest

open SplitTest.Text

/-! ## Command lists -/

namespace CommandList

/-- **Blanks around a stored form do not show.** -/
theorem ofStored_padded (l : CommandList) {before after : String}
    (hbefore : ∀ c ∈ before.toList, isBlank c = true)
    (hafter : ∀ c ∈ after.toList, isBlank c = true) :
    ofStored (before ++ l.stored ++ after) = .ok l := by
  have htrim : trim (before ++ l.stored ++ after).toList = trim l.stored.toList := by
    rw [String.toList_append, String.toList_append, trim_append_append hbefore hafter]
  rw [← l.ofStored_stored, ofStored, ofStored, htrim]

theorem stored_injective : Function.Injective stored := by
  intro l l' h
  have hread := l.ofStored_stored
  rw [h, l'.ofStored_stored] at hread
  exact (Except.ok.inj hread).symm

end CommandList

namespace Store

/-! ## Records -/

/-- A condition is the one that an operator gave. -/
structure ConditionInput.Gives (input : ConditionInput) (c : Condition) : Prop where
  condset : c.condset = input.condset
  weight : c.weight = input.weight
  /-- The allow-list is read, and its text is kept. -/
  allowList : c.allowList = .parse input.allowList ∧ c.allowList.source = input.allowList
  commands : c.commands = .ofAuthoringText input.commands
  users : ∀ u, c.users.contains u = true ↔ u ∈ input.users

/-- A record decodes to the condition of an experiment that an operator gave. -/
def ConditionRecord.Holds (r : ConditionRecord) (owner : ExperimentId) (input : ConditionInput) :
    Prop :=
  ∃ c, r.decode = .ok c ∧ c.id = r.id ∧ c.experimentId = owner ∧ input.Gives c

theorem ConditionInput.gives_condition (input : ConditionInput) (id : ConditionId)
    (owner : ExperimentId) : input.Gives (input.condition id owner) where
  condset := rfl
  weight := rfl
  allowList := ⟨rfl, rfl⟩
  commands := rfl
  users := UserSet.contains_ofList input.users

/-- **The columns of an input decode to what was given.** -/
theorem ConditionInput.holds_fields (input : ConditionInput) (id : ConditionId)
    (owner : ExperimentId) : (⟨id, owner, input.fields⟩ : ConditionRecord).Holds owner input := by
  have hreadable : (⟨id, owner, input.fields⟩ : ConditionRecord).Readable := input.readable_fields
  have hdecode := hreadable.decode
  rw [input.content_fields] at hdecode
  exact ⟨_, hdecode, rfl, rfl, input.gives_condition id owner⟩

/-! ## What operations file -/

/-- Records that are new hold a condition of an experiment that an operator gave. -/
def Manager.NewHold (owner : ExperimentId) (input : ConditionInput) (m m' : Manager) : Prop :=
  ∀ r ∈ m'.tables.conditions, r ∈ m.tables.conditions ∨ r.Holds owner input

/-- An operation files nothing but what an operator gave for a condition of an experiment, and
if it answers, it has filed that under the number that its answer tells. -/
structure Action.Files {α : Type} (act : Action α) (owner : ExperimentId) (input : ConditionInput)
    (m : Manager) (number : α → Option ConditionId) : Prop where
  newHold : m.NewHold owner input (act.runOn m).2
  filed : ∀ {a m'}, act.runOn m = (.ok a, m') →
    ∃ r ∈ m'.tables.conditions, number a = some r.id ∧ r.Holds owner input

section
variable {owner : ExperimentId} {input : ConditionInput}

theorem Manager.newHold_frame : ReadFrame (Manager.NewHold owner input) where
  trans := fun hab hbc r hr => (hbc r hr).elim (hab r) Or.inr
  aside := fun _ _ _ _ _ hr => Or.inl hr

namespace Action

theorem newHold_insertCondition :
    (insertCondition owner input.fields).Within (Manager.NewHold owner input) := by
  intro m
  rcases runOn_serve_cases .insertCondition (·.insertCondition owner input.fields) m with
    h | ⟨new, t, ht, h⟩
  · rw [insertCondition, h]
    exact Manager.newHold_frame.refl m
  · obtain ⟨-, rfl⟩ := Tables.insertCondition_eq_ok ht
    rw [insertCondition, h]
    intro r hr
    rcases SortedMap.eq_or_mem_of_mem_values_insert hr with rfl | hr
    · exact Or.inr (input.holds_fields _ owner)
    · exact Or.inl hr

theorem newHold_replaceCondition (id : ConditionId) :
    (replaceCondition ⟨id, owner, input.fields⟩).Within (Manager.NewHold owner input) := by
  intro m
  rcases runOn_tell_cases .updateCondition (·.updateCondition ⟨id, owner, input.fields⟩) m with
    h | ⟨t, ht, h⟩
  · rw [replaceCondition, h]
    exact Manager.newHold_frame.refl m
  · obtain rfl := Tables.updateCondition_eq_ok ht
    rw [replaceCondition, h]
    intro r hr
    rcases SortedMap.eq_or_mem_of_mem_values_insert hr with rfl | hr
    · exact Or.inr (input.holds_fields id owner)
    · exact Or.inl hr

theorem runOn_recordCommands (experiment : String) (weight : Nat) (commands : CommandList)
    (m : Manager) : ∃ audit events, (recordCommands experiment weight commands).runOn m =
      (.ok (), { m with audit := audit, events := events }) := by
  obtain ⟨audit, events, hrecord⟩ := foldl_record
    (AuditEntry.ofCommands experiment weight commands) m
  exact ⟨audit, events, by rw [recordCommands, runOn_alter, hrecord]⟩

theorem newHold_recordCommands (experiment : String) (weight : Nat) (commands : CommandList) :
    (recordCommands experiment weight commands).Within (Manager.NewHold owner input) := by
  intro m
  obtain ⟨audit, events, hrun⟩ := runOn_recordCommands experiment weight commands m
  rw [hrun]
  exact fun r hr => Or.inl hr

/-! ## Steps that answer -/

theorem runOn_insertCondition_eq_ok {fields : ConditionFields} {new : ConditionId}
    {m m' : Manager} (h : (insertCondition owner fields).runOn m = (.ok new, m')) :
    ⟨new, owner, fields⟩ ∈ m'.tables.conditions := by
  obtain ⟨t, ht, rfl⟩ := runOn_serve_eq_ok h
  obtain ⟨rfl, rfl⟩ := Tables.insertCondition_eq_ok ht
  exact SortedMap.mem_values_insert_self

theorem runOn_replaceCondition_eq_ok {r : ConditionRecord} {m m' : Manager}
    (h : (replaceCondition r).runOn m = (.ok (), m')) : r ∈ m'.tables.conditions := by
  obtain ⟨t, ht, rfl⟩ := runOn_tell_eq_ok h
  obtain rfl := Tables.updateCondition_eq_ok ht
  exact SortedMap.mem_values_insert_self

theorem runOn_unless_eq_ok {α : Type} {act : Action α} {taken : Bool} {e : StoreError} {a : α}
    {m m' : Manager}
    (h : (do if taken then fail e
             act).runOn m = (.ok a, m')) : act.runOn m = (.ok a, m') := by
  cases taken with
  | true => cases h
  | false => exact h

theorem runOn_required_eq_ok {α : Type} {e : StoreError} {found : Option α} {a : α}
    {m m' : Manager} (h : (required e found).runOn m = (.ok a, m')) : found = some a ∧ m' = m := by
  cases found with
  | some a' =>
    rw [runOn_required_some] at h
    cases h
    exact ⟨rfl, rfl⟩
  | none => cases h

theorem runOn_owner_eq_ok {x : Experiment} {m m' : Manager}
    (h : (Action.owner owner).runOn m = (.ok x, m')) : m' = m := by
  obtain ⟨found, m₁, hask, hrequired⟩ := runOn_bind_eq_ok h
  obtain ⟨-, rfl⟩ := runOn_ask_eq_ok hask
  exact (runOn_required_eq_ok hrequired).2

/-! ## Operations that write -/

/-- **The addition of a condition files what was given for it**, under the number that it
answers. -/
theorem files_addCondition (m : Manager) : (addCondition owner input).Files owner input m some where
  newHold :=
    within_addCondition_of Manager.newHold_frame owner input newHold_insertCondition
      (fun experiment => newHold_recordCommands experiment _ _) m
  filed := by
    intro new m' h
    obtain ⟨m₁, hbody, rfl⟩ := runOn_mutating_eq_ok h
    obtain ⟨x, m₂, -, hcheck⟩ := runOn_bind_eq_ok hbody
    obtain ⟨taken, m₃, -, hfree⟩ := runOn_bind_eq_ok hcheck
    obtain ⟨number, m₄, hinsert, hrest⟩ := runOn_bind_eq_ok (runOn_unless_eq_ok hfree)
    obtain ⟨audit, events, hrecord⟩ := runOn_recordCommands x.shortname input.weight
      input.commandList m₄
    rw [runOn_bind_of_ok hrecord] at hrest
    cases hrest
    have hfiled := runOn_insertCondition_eq_ok hinsert
    exact ⟨_, hfiled, rfl, input.holds_fields new owner⟩

/-- **The update of a condition files what was given for it**, under the number that the
condition had. -/
theorem files_updateCondition (previous : String) (m : Manager) :
    (updateCondition owner previous input).Files owner input m fun _ =>
      (m.tables.conditionNamed? owner previous).map ConditionRecord.id where
  newHold :=
    within_updateCondition_of Manager.newHold_frame owner previous input newHold_replaceCondition
      (fun experiment => newHold_recordCommands experiment _ _) m
  filed := by
    intro _ m' h
    obtain ⟨m₁, hbody, rfl⟩ := runOn_mutating_eq_ok h
    obtain ⟨x, m₂, howner, hlookup⟩ := runOn_bind_eq_ok hbody
    obtain rfl := runOn_owner_eq_ok howner
    obtain ⟨found, m₃, hask, hfound⟩ := runOn_bind_eq_ok hlookup
    obtain ⟨rfl, rfl⟩ := runOn_ask_eq_ok hask
    obtain ⟨r, m₄, hrequired, hcheck⟩ := runOn_bind_eq_ok hfound
    obtain ⟨hr, rfl⟩ := runOn_required_eq_ok hrequired
    -- renamed or not, the condition is replaced at the end
    have hwrite : ∃ m₅, (do
        replaceCondition ⟨r.id, owner, input.fields⟩
        recordCommands x.shortname input.weight input.commandList).runOn m₅ = (.ok (), m₁) := by
      split at hcheck
      · obtain ⟨taken, m₅, -, hfree⟩ := runOn_bind_eq_ok hcheck
        exact ⟨m₅, runOn_unless_eq_ok hfree⟩
      · exact ⟨_, hcheck⟩
    obtain ⟨m₅, hwrite⟩ := hwrite
    obtain ⟨_, m₆, hreplace, hrest⟩ := runOn_bind_eq_ok hwrite
    obtain ⟨audit, events, hrecord⟩ := runOn_recordCommands x.shortname input.weight
      input.commandList m₆
    rw [hrecord] at hrest
    cases hrest
    have hfiled := runOn_replaceCondition_eq_ok hreplace
    exact ⟨_, hfiled, by rw [hr]; rfl, input.holds_fields r.id owner⟩

end Action
end

/-- **Stored commands are read as they were written**, whatever their characters are and whatever
blanks stand around them, so different lists are stored differently.  The columns of an input
decode to what an operator gave, and these are what the manager files, when a condition is added
and when it is updated, in whatever state its store is. -/
theorem decoding_law :
    (∀ l : CommandList, CommandList.ofStored l.stored = .ok l) ∧
    (∀ (l : CommandList) (before after : String), (∀ c ∈ before.toList, isBlank c = true) →
      (∀ c ∈ after.toList, isBlank c = true) →
      CommandList.ofStored (before ++ l.stored ++ after) = .ok l) ∧
    Function.Injective CommandList.stored ∧
    (∀ (input : ConditionInput) (id : ConditionId) (owner : ExperimentId),
      (⟨id, owner, input.fields⟩ : ConditionRecord).Holds owner input) ∧
    (∀ (owner : ExperimentId) (input : ConditionInput) (m : Manager),
      (Action.addCondition owner input).Files owner input m some) ∧
    ∀ (owner : ExperimentId) (previous : String) (input : ConditionInput) (m : Manager),
      (Action.updateCondition owner previous input).Files owner input m fun _ =>
        (m.tables.conditionNamed? owner previous).map ConditionRecord.id :=
  ⟨CommandList.ofStored_stored, fun l _ _ => l.ofStored_padded, CommandList.stored_injective,
    ConditionInput.holds_fields, fun _ _ => Action.files_addCondition,
    fun _ previous _ => Action.files_updateCondition previous⟩

/-- A script with quotes, a backslash, a control character and a letter beyond ASCII. -/
def awkwardInput : ConditionInput :=
  ⟨"dark", "192.0.2.0/24 # office", "js_header,say(\"é\\\t\u0001\")\n\nCFG,theme,dark", 100,
    [7, 2, 7]⟩

theorem awkward_decoded :
    let l := awkwardInput.commandList
    let m := (Action.addExperiment "Theme" "theme" .request 0).runOn .empty
    let r := (Action.addCondition ⟨1⟩ awkwardInput).runOn m.2
    l.lines = ["js_header,say(\"é\\\t\u0001\")", "CFG,theme,dark"] ∧
      l.stored = "[\"js_header,say(\\\"é\\\\\\t\\u0001\\\")\",\"CFG,theme,dark\"]" ∧
      CommandList.ofStored ("\n\u2003" ++ l.stored ++ " ") = .ok l ∧
      r.1 = .ok ⟨1⟩ ∧
      ∃ x ∈ r.2.tables.conditions, x.id = ⟨1⟩ ∧ x.Holds ⟨1⟩ awkwardInput := by
  intro l m r
  have hanswer : r.1 = .ok ⟨1⟩ := by decide +kernel
  obtain ⟨-, hpadded, -, -, hadd, -⟩ := decoding_law
  obtain ⟨x, hx, hid, hholds⟩ := (hadd ⟨1⟩ awkwardInput m.2).filed (Prod.ext hanswer rfl)
  exact ⟨by decide +kernel, by decide +kernel,
    hpadded l "\n\u2003" " " (List.all_eq_true.mp (by decide)) (List.all_eq_true.mp (by decide)),
    hanswer, x, hx, (Option.some.inj hid).symm, hholds⟩

end Store

end SplitTest

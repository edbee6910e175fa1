import SplitTest.Store.Manager

/-!
# Catalogs

A catalog is what operators believe they edit: a list of experiments, each with the list
of its conditions.  It has no tables, no stored forms and no cache, and an operation that
fails leaves it alone.

A `ManagerCall` is something that operators and hooks ask of a manager.
`ManagerCall.action` is the operation of the manager, and `Catalog.step` what the same call
means for a catalog; `Catalog.Does` lists all that a call can do which does not fail.
-/

namespace SplitTest.Store

/-- An experiment with its conditions, both as they were written. -/
structure Listing where
  /-- The experiment. -/
  experiment : Experiment
  /-- Its conditions in the order in which they were added. -/
  conditions : List Condition
deriving DecidableEq

/-- The listing of an entry. -/
def Listing.ofEntry (e : Entry) : Listing := ⟨e.experiment, e.conditions.items⟩

/-- The listings of a dataset, in stored order. -/
def Listing.ofDataset (d : Dataset) : List Listing := d.items.map Listing.ofEntry

/-- The condition of a listing with a condset. -/
def Listing.condition? (x : Listing) (condset : String) : Option Condition :=
  x.conditions.find? fun c => c.condset == condset

/-- Experiments with their conditions, and how many of each were ever added. -/
structure Catalog where
  /-- The experiments in the order in which they were added. -/
  listings : List Listing
  /-- The last number given to an experiment. -/
  lastExperiment : Nat
  /-- The last number given to a condition. -/
  lastCondition : Nat
deriving DecidableEq

/-- The condition that an operator's input becomes. -/
def ConditionInput.condition (input : ConditionInput) (id : ConditionId) (owner : ExperimentId) :
    Condition where
  id := id
  experimentId := owner
  condset := input.condset
  allowList := .parse input.allowList
  commands := .ofAuthoringText input.commands
  weight := input.weight
  users := .ofList input.users

/-- The experiment that an operator's update leaves in the place of one with a number. -/
def ExperimentUpdate.experiment (u : ExperimentUpdate) (id : ExperimentId) : Experiment where
  id := id
  name := u.name
  shortname := u.shortname
  scope := u.scope
  enabled := u.enabled
  adminEnabled := u.adminEnabled
  numericOffset := u.numericOffset.toNat

namespace Catalog

/-- The catalog without experiments. -/
def empty : Catalog := ⟨[], 0, 0⟩

/-- The listing with a shortname. -/
def named? (c : Catalog) (shortname : String) : Option Listing :=
  c.listings.find? fun x => x.experiment.shortname == shortname

/-- The listing with a number. -/
def numbered? (c : Catalog) (id : ExperimentId) : Option Listing :=
  c.listings.find? fun x => x.experiment.id == id

/-- The catalog with the listing of a number edited in its place. -/
def edit (c : Catalog) (id : ExperimentId) (f : Listing → Listing) : Catalog :=
  { c with listings := c.listings.map fun x => if x.experiment.id = id then f x else x }

/-! ## Experiments -/

/-- Append an experiment that does not take place yet, without conditions. -/
def addExperiment (c : Catalog) (name shortname : String) (scope : Scope) (offset : Nat) :
    Except StoreError (ExperimentId × Catalog) :=
  if isShortname shortname = false then .error (.invalid (.shortname shortname))
  else if (c.named? shortname).isSome then .error (.alreadyExists .experiment shortname)
  else
    let id : ExperimentId := ⟨(c.lastExperiment + 1 : Nat)⟩
    .ok (id, { c with
      listings := c.listings ++ [⟨⟨id, name, shortname, scope, false, false, offset⟩, []⟩]
      lastExperiment := c.lastExperiment + 1 })

/-- Replace everything but the number, the place and the conditions. -/
def updateExperiment (c : Catalog) (previous : String) (u : ExperimentUpdate) :
    Except StoreError (Unit × Catalog) :=
  match c.named? previous with
  | none => .error (.notFound .experiment previous)
  | some x =>
    if isShortname u.shortname = false then .error (.invalid (.shortname u.shortname))
    else if ¬(0 ≤ u.numericOffset ∧ u.numericOffset ≤ 99) then
      .error (.invalid (.offset u.numericOffset))
    else if u.shortname ≠ previous ∧ (c.named? u.shortname).isSome then
      .error (.alreadyExists .experiment u.shortname)
    else
      .ok ((), c.edit x.experiment.id fun y =>
        { y with experiment := u.experiment x.experiment.id })

/-- Remove an experiment with its conditions. -/
def deleteExperiment (c : Catalog) (shortname : String) : Except StoreError (Unit × Catalog) :=
  match c.named? shortname with
  | none => .error (.notFound .experiment shortname)
  | some x =>
    .ok ((), { c with
      listings := c.listings.filter fun y => y.experiment.id != x.experiment.id })

/-! ## Conditions -/

/-- Append a condition to those of an experiment. -/
def addCondition (c : Catalog) (id : ExperimentId) (input : ConditionInput) :
    Except StoreError (ConditionId × Catalog) :=
  match c.numbered? id with
  | none => .error (.notFound .experiment (Text.ofInt id.value))
  | some x =>
    if (x.condition? input.condset).isSome then
      .error (.alreadyExists .condition input.condset)
    else
      let new : ConditionId := ⟨(c.lastCondition + 1 : Nat)⟩
      .ok (new, { c.edit id fun y =>
          { y with conditions := y.conditions ++ [input.condition new id] } with
        lastCondition := c.lastCondition + 1 })

/-- Replace everything but the number and the place of a condition. -/
def updateCondition (c : Catalog) (id : ExperimentId) (previous : String)
    (input : ConditionInput) : Except StoreError (Unit × Catalog) :=
  match c.numbered? id with
  | none => .error (.notFound .experiment (Text.ofInt id.value))
  | some x =>
    match x.condition? previous with
    | none => .error (.notFound .condition previous)
    | some z =>
      if input.condset ≠ previous ∧ (x.condition? input.condset).isSome then
        .error (.alreadyExists .condition input.condset)
      else
        .ok ((), c.edit id fun y =>
          { y with conditions := y.conditions.map fun w =>
              if w.id = z.id then input.condition z.id id else w })

/-- Remove a condition. -/
def deleteCondition (c : Catalog) (id : ExperimentId) (condset : String) :
    Except StoreError (Unit × Catalog) :=
  match (c.numbered? id).bind fun x => x.condition? condset with
  | none => .error (.notFound .condition condset)
  | some z =>
    .ok ((), c.edit id fun y =>
      { y with conditions := y.conditions.filter fun w => w.id != z.id })

/-- Remove the conditions of an experiment, which need not be there. -/
def deleteAllConditions (c : Catalog) (id : ExperimentId) : Except StoreError (Unit × Catalog) :=
  .ok ((), c.edit id fun y => { y with conditions := [] })

end Catalog

/-! ## Calls -/

/-- What is asked of a manager.  The offset of a new experiment is drawn by the manager. -/
inductive ManagerCall where
  | addExperiment (name shortname : String) (scope : Scope) (offset : Fin 100)
  | updateExperiment (previous : String) (u : ExperimentUpdate)
  | deleteExperiment (shortname : String)
  | addCondition (id : ExperimentId) (input : ConditionInput)
  | updateCondition (id : ExperimentId) (previous : String) (input : ConditionInput)
  | deleteCondition (id : ExperimentId) (condset : String)
  | deleteAllConditions (id : ExperimentId)
  | snapshot
  | invalidate
deriving DecidableEq

/-- What a manager answers. -/
inductive ManagerAnswer where
  /-- The number of a new experiment. -/
  | experiment (id : ExperimentId)
  /-- The number of a new condition. -/
  | condition (id : ConditionId)
  /-- That it is done. -/
  | done
  /-- The listings of the dataset. -/
  | listings (xs : List Listing)
deriving DecidableEq

namespace ManagerCall

/-- The operation of the manager. -/
def action : ManagerCall → Action ManagerAnswer
  | addExperiment name shortname scope offset =>
    return .experiment (← Action.addExperiment name shortname scope offset)
  | updateExperiment previous u => do
    Action.updateExperiment previous u
    return .done
  | deleteExperiment shortname => do
    Action.deleteExperiment shortname
    return .done
  | addCondition id input => return .condition (← Action.addCondition id input)
  | updateCondition id previous input => do
    Action.updateCondition id previous input
    return .done
  | deleteCondition id condset => do
    Action.deleteCondition id condset
    return .done
  | deleteAllConditions id => do
    Action.deleteAllConditions id
    return .done
  | snapshot => return .listings (Listing.ofDataset (← Action.snapshot))
  | invalidate => do
    Action.alter Manager.invalidate
    return .done

end ManagerCall

/-- What a call means for a catalog: its answer and the catalog after it, or why it
fails. -/
def Catalog.step (c : Catalog) : ManagerCall → Except StoreError (ManagerAnswer × Catalog)
  | .addExperiment name shortname scope offset =>
    (c.addExperiment name shortname scope offset).map fun r => (.experiment r.1, r.2)
  | .updateExperiment previous u => (c.updateExperiment previous u).map fun r => (.done, r.2)
  | .deleteExperiment shortname => (c.deleteExperiment shortname).map fun r => (.done, r.2)
  | .addCondition id input => (c.addCondition id input).map fun r => (.condition r.1, r.2)
  | .updateCondition id previous input =>
    (c.updateCondition id previous input).map fun r => (.done, r.2)
  | .deleteCondition id condset => (c.deleteCondition id condset).map fun r => (.done, r.2)
  | .deleteAllConditions id => (c.deleteAllConditions id).map fun r => (.done, r.2)
  | .snapshot => .ok (.listings c.listings, c)
  | .invalidate => .ok (.done, c)

/-- The catalog after a call; a call that fails leaves it as it was. -/
def Catalog.next (c : Catalog) (call : ManagerCall) : Catalog :=
  match c.step call with
  | .ok (_, c') => c'
  | .error _ => c

/-- The catalog after calls. -/
def Catalog.after (c : Catalog) (calls : List ManagerCall) : Catalog := calls.foldl Catalog.next c

/-- The manager after calls. -/
def Manager.after (m : Manager) (calls : List ManagerCall) : Manager :=
  calls.foldl (fun m call => (call.action.runOn m).2) m

/-! ## What a call does that succeeds -/

/-- Everything that a call can do to a catalog without failing. -/
inductive Catalog.Does (c : Catalog) : ManagerCall → ManagerAnswer → Catalog → Prop where
  | addExperiment {name shortname : String} {scope : Scope} {offset : Fin 100} :
      isShortname shortname = true → c.named? shortname = none →
      c.Does (.addExperiment name shortname scope offset)
        (.experiment ⟨(c.lastExperiment + 1 : Nat)⟩)
        { c with
          listings := c.listings ++ [⟨⟨⟨(c.lastExperiment + 1 : Nat)⟩, name, shortname, scope,
            false, false, offset⟩, []⟩]
          lastExperiment := c.lastExperiment + 1 }
  | updateExperiment {previous : String} {u : ExperimentUpdate} {x : Listing} :
      c.named? previous = some x → isShortname u.shortname = true →
      0 ≤ u.numericOffset ∧ u.numericOffset ≤ 99 →
      u.shortname = previous ∨ c.named? u.shortname = none →
      c.Does (.updateExperiment previous u) .done
        (c.edit x.experiment.id fun y => { y with experiment := u.experiment x.experiment.id })
  | deleteExperiment {shortname : String} {x : Listing} : c.named? shortname = some x →
      c.Does (.deleteExperiment shortname) .done
        { c with listings := c.listings.filter fun y => y.experiment.id != x.experiment.id }
  | addCondition {id : ExperimentId} {input : ConditionInput} {x : Listing} :
      c.numbered? id = some x → x.condition? input.condset = none →
      c.Does (.addCondition id input) (.condition ⟨(c.lastCondition + 1 : Nat)⟩)
        { c.edit id fun y =>
            { y with conditions := y.conditions ++
                [input.condition ⟨(c.lastCondition + 1 : Nat)⟩ id] } with
          lastCondition := c.lastCondition + 1 }
  | updateCondition {id : ExperimentId} {previous : String} {input : ConditionInput} {x : Listing}
      {z : Condition} : c.numbered? id = some x → x.condition? previous = some z →
      input.condset = previous ∨ x.condition? input.condset = none →
      c.Does (.updateCondition id previous input) .done
        (c.edit id fun y => { y with conditions := y.conditions.map fun w =>
          if w.id = z.id then input.condition z.id id else w })
  | deleteCondition {id : ExperimentId} {condset : String} {z : Condition} :
      ((c.numbered? id).bind fun x => x.condition? condset) = some z →
      c.Does (.deleteCondition id condset) .done
        (c.edit id fun y => { y with conditions := y.conditions.filter fun w => w.id != z.id })
  | deleteAllConditions {id : ExperimentId} :
      c.Does (.deleteAllConditions id) .done (c.edit id fun y => { y with conditions := [] })
  | snapshot : c.Does .snapshot (.listings c.listings) c
  | invalidate : c.Does .invalidate .done c

theorem eq_or_eq_none_of_not {α : Type} {name previous : String} {taken : Option α}
    (h : ¬(name ≠ previous ∧ taken.isSome = true)) : name = previous ∨ taken = none := by
  by_cases hsame : name = previous
  · exact Or.inl hsame
  · exact Or.inr (Option.not_isSome_iff_eq_none.mp fun htaken => h ⟨hsame, htaken⟩)

theorem Catalog.does_of_step {c c' : Catalog} {call : ManagerCall} {answer : ManagerAnswer}
    (h : c.step call = .ok (answer, c')) : c.Does call answer c' := by
  cases call with
  | addExperiment name shortname scope offset =>
    simp only [step, Catalog.addExperiment] at h
    split at h
    · cases h
    next hname =>
    split at h
    · cases h
    next hfree =>
    cases h
    exact .addExperiment ((Bool.not_eq_false _).mp hname) (Option.not_isSome_iff_eq_none.mp hfree)
  | updateExperiment previous u =>
    simp only [step, Catalog.updateExperiment] at h
    split at h
    · cases h
    next x hx =>
    split at h
    · cases h
    next hname =>
    split at h
    · cases h
    next hoffset =>
    split at h
    · cases h
    next hfree =>
    cases h
    exact .updateExperiment hx ((Bool.not_eq_false _).mp hname) (Decidable.not_not.mp hoffset)
      (eq_or_eq_none_of_not hfree)
  | deleteExperiment shortname =>
    simp only [step, Catalog.deleteExperiment] at h
    split at h
    · cases h
    next x hx =>
    cases h
    exact .deleteExperiment hx
  | addCondition id input =>
    simp only [step, Catalog.addCondition] at h
    split at h
    · cases h
    next x hx =>
    split at h
    · cases h
    next hfree =>
    cases h
    exact .addCondition hx (Option.not_isSome_iff_eq_none.mp hfree)
  | updateCondition id previous input =>
    simp only [step, Catalog.updateCondition] at h
    split at h
    · cases h
    next x hx =>
    split at h
    · cases h
    next z hz =>
    split at h
    · cases h
    next hfree =>
    cases h
    exact .updateCondition hx hz (eq_or_eq_none_of_not hfree)
  | deleteCondition id condset =>
    simp only [step, Catalog.deleteCondition] at h
    split at h
    · cases h
    next z hz =>
    cases h
    exact .deleteCondition hz
  | deleteAllConditions id =>
    cases h
    exact .deleteAllConditions
  | snapshot =>
    cases h
    exact .snapshot
  | invalidate =>
    cases h
    exact .invalidate

end SplitTest.Store

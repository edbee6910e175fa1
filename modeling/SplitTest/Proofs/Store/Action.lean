import SplitTest.Store.Manager

/-!
# Running operations

What running an operation comes to, construct by construct.  The calls of a store that is
in order are the functions of its tables (`runOn_ask`, `runOn_serve`, `runOn_tell`), and an
operation that may write forgets the cached dataset in every case (`runOn_mutating`).
-/

namespace SplitTest.Store

namespace Action
variable {α β : Type} {m : Manager}

@[simp] theorem runOn_pure (a : α) : (pure a : Action α).runOn m = (.ok a, m) := rfl

@[simp] theorem runOn_fail (e : StoreError) : (fail e : Action α).runOn m = (.error e, m) := rfl

@[simp] theorem runOn_alter (f : Manager → Manager) : (alter f).runOn m = (.ok (), f m) := rfl

theorem runOn_bind (act : Action α) (f : α → Action β) :
    (act >>= f).runOn m =
      match act.runOn m with
      | (.ok a, m') => (f a).runOn m'
      | (.error e, m') => (.error e, m') := by
  show ((act >>= f).run.run m : Except StoreError β × Manager) = _
  rw [ExceptT.run_bind, StateT.run_bind]
  show _ = match act.run.run m with
    | (.ok a, m') => (f a).runOn m'
    | (.error e, m') => (.error e, m')
  cases act.run.run m with
  | mk r m' => cases r <;> rfl

/-- After a step that answers, the operation goes on. -/
theorem runOn_bind_of_ok {act : Action α} {f : α → Action β} {a : α} {m' : Manager}
    (h : act.runOn m = (.ok a, m')) : (act >>= f).runOn m = (f a).runOn m' := by
  rw [runOn_bind, h]

/-- After a step that fails, it does not. -/
theorem runOn_bind_of_error {act : Action α} {f : α → Action β} {e : StoreError}
    {m' : Manager} (h : act.runOn m = (.error e, m')) :
    (act >>= f).runOn m = (.error e, m') := by
  rw [runOn_bind, h]

/-- An operation answers only if each of its steps does. -/
theorem runOn_bind_eq_ok {act : Action α} {f : α → Action β} {b : β} {m' : Manager}
    (h : (act >>= f).runOn m = (.ok b, m')) :
    ∃ a m₁, act.runOn m = (.ok a, m₁) ∧ (f a).runOn m₁ = (.ok b, m') := by
  rw [runOn_bind] at h
  cases hact : act.runOn m with
  | mk r m₁ =>
    rw [hact] at h
    cases r with
    | error e => cases h
    | ok a => exact ⟨a, m₁, rfl, h⟩

theorem runOn_check (r : Except FieldFault α) :
    (check r).runOn m =
      match r with
      | .ok a => (.ok a, m)
      | .error fault => (.error (.invalid fault), m) := by
  cases r <;> rfl

@[simp] theorem runOn_mutating (act : Action α) :
    (mutating act).runOn m = ((act.runOn m).1, (act.runOn m).2.invalidate) := rfl

theorem runOn_mutating_eq_ok {act : Action α} {a : α} {m' : Manager}
    (h : (mutating act).runOn m = (.ok a, m')) :
    ∃ m₁, act.runOn m = (.ok a, m₁) ∧ m' = m₁.invalidate := by
  rw [runOn_mutating] at h
  obtain ⟨hanswer, rfl⟩ := Prod.mk.inj h
  exact ⟨_, Prod.ext hanswer rfl, rfl⟩

/-- A call of the store fails if it is out of order, and is a function of the tables
otherwise. -/
theorem runOn_serve_eq (c : StoreCall) (f : Tables → Except StoreError (α × Tables)) :
    (serve c f).runOn m =
      if m.outages.contains c then (.error c.outage, m)
      else
        match f m.tables with
        | .ok (a, tables) => (.ok a, { m with tables := tables })
        | .error e => (.error e, m) := by
  have hget : (serve c f).runOn m =
      (if m.outages.contains c then
        fail c.outage
      else
        match f m.tables with
        | .ok (a, tables) => do
          alter fun m => { m with tables := tables }
          pure a
        | .error e => fail e : Action α).runOn m := rfl
  rw [hget]
  split
  · rfl
  · cases f m.tables with
    | error e => rfl
    | ok result => rfl

/-- A call of the store that answers leaves the tables that it answers with. -/
theorem runOn_serve_eq_ok {c : StoreCall} {f : Tables → Except StoreError (α × Tables)} {a : α}
    {m' : Manager} (h : (serve c f).runOn m = (.ok a, m')) :
    ∃ t, f m.tables = .ok (a, t) ∧ m' = { m with tables := t } := by
  rw [runOn_serve_eq] at h
  split at h
  · cases h
  · cases hf : f m.tables with
    | error e =>
      rw [hf] at h
      cases h
    | ok result =>
      rw [hf] at h
      cases h
      exact ⟨_, rfl, rfl⟩

theorem runOn_tell_eq_ok {c : StoreCall} {f : Tables → Except StoreError Tables} {m' : Manager}
    (h : (tell c f).runOn m = (.ok (), m')) :
    ∃ t, f m.tables = .ok t ∧ m' = { m with tables := t } := by
  obtain ⟨t, ht, rfl⟩ := runOn_serve_eq_ok h
  cases hf : f m.tables with
  | error e =>
    rw [hf] at ht
    cases ht
  | ok t' =>
    rw [hf] at ht
    cases ht
    exact ⟨t, rfl, rfl⟩

/-- What is looked up in the store is what its tables have. -/
theorem runOn_ask_eq_ok {c : StoreCall} {f : Tables → α} {a : α} {m' : Manager}
    (h : (ask c f).runOn m = (.ok a, m')) : a = f m.tables ∧ m' = m := by
  obtain ⟨t, ht, rfl⟩ := runOn_serve_eq_ok h
  cases ht
  exact ⟨rfl, rfl⟩

section
variable (ho : m.outages = [])
include ho

/-- **A call of a store in order is a function of its tables.** -/
theorem runOn_serve (c : StoreCall) (f : Tables → Except StoreError (α × Tables)) :
    (serve c f).runOn m =
      match f m.tables with
      | .ok (a, tables) => (.ok a, { m with tables := tables })
      | .error e => (.error e, m) := by
  have hc : ¬m.outages.contains c = true := by simp [ho]
  rw [runOn_serve_eq, if_neg hc]

theorem runOn_ask (c : StoreCall) (f : Tables → α) :
    (ask c f).runOn m = (.ok (f m.tables), m) := by
  rw [ask, runOn_serve ho]

theorem runOn_tell (c : StoreCall) (f : Tables → Except StoreError Tables) :
    (tell c f).runOn m =
      match f m.tables with
      | .ok tables => (.ok (), { m with tables := tables })
      | .error e => (.error e, m) := by
  rw [tell, runOn_serve ho]
  cases f m.tables <;> rfl

end

end Action

end SplitTest.Store

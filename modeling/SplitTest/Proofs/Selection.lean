import Mathlib.Algebra.GroupWithZero.Nat
import Mathlib.Data.List.Basic
import SplitTest.Selector

/-!
# Where a point falls

Items that do not count take no room on the line, so the item that a point falls on is
found by its place alone: it counts, and the weight of the counting items before it is
where it starts (`select_filter_eq_some_iff`).  At most one item is there, since a point
that one interval covers lies in no later one (`not_hits_of_le`).
-/

namespace SplitTest.Selector

theorem hits_uniform_iff {n start stop : Nat} :
    (uniform n).hits start stop = true ↔ start < n ∧ n ≤ stop := by
  simp [hits]

theorem hits_stable_iff {n start stop : Nat} :
    (stable n).hits start stop = true ↔ start ≤ n ∧ n < stop := by
  simp [hits]

/-- A point of one interval lies in none that begins where the first ends or later. -/
theorem not_hits_of_le {s : Selector} {a b a' b' : Nat} (h : s.hits a b = true) (hb : b ≤ a') :
    s.hits a' b' = false := by
  cases s with
  | uniform n =>
    rw [hits_uniform_iff] at h
    simp only [hits, Bool.and_eq_false_iff, decide_eq_false_iff_not]
    omega
  | stable n =>
    rw [hits_stable_iff] at h
    simp only [hits, Bool.and_eq_false_iff, decide_eq_false_iff_not]
    omega

/-- The ways to split a list at an element: at its head, or in its tail. -/
theorem exists_split_cons_iff {α : Type} {y x : α} {ys : List α} {P : List α → Prop} :
    (∃ before after, y :: ys = before ++ x :: after ∧ P before) ↔
      (y = x ∧ P []) ∨ ∃ before after, ys = before ++ x :: after ∧ P (y :: before) := by
  constructor
  · rintro ⟨before, after, e, h⟩
    cases before with
    | nil => exact Or.inl ⟨(List.cons.inj e).1, h⟩
    | cons z before =>
      obtain ⟨rfl, rfl⟩ := List.cons.inj e
      exact Or.inr ⟨before, after, rfl, h⟩
  · rintro (⟨rfl, h⟩ | ⟨before, after, rfl, h⟩)
    · exact ⟨[], ys, rfl, h⟩
    · exact ⟨y :: before, after, rfl, h⟩

section
variable {α : Type} (s : Selector) (weight : α → Nat) (p : α → Bool)

/-- The item that a point falls on, among the counting items that begin at `start`. -/
theorem selectFrom_filter_eq_some_iff {xs : List α} {x : α} :
    ∀ {start : Nat}, s.selectFrom weight start (xs.filter p) = some x ↔
      ∃ before after, xs = before ++ x :: after ∧ p x = true ∧
        s.hits (start + ((before.filter p).map weight).sum)
          (start + ((before.filter p).map weight).sum + weight x) = true := by
  induction xs with
  | nil => intro start; simp [selectFrom]
  | cons y ys ih =>
    intro start
    rw [exists_split_cons_iff]
    cases hy : p y with
    | false =>
      have hne : ¬(y = x ∧ p x = true ∧ s.hits start (start + weight x) = true) := by
        rintro ⟨rfl, hx, -⟩
        rw [hy] at hx
        cases hx
      rw [List.filter_cons_of_neg (by simp [hy]), ih]
      simpa [hy] using fun e hx hit => absurd ⟨e, hx, hit⟩ hne
    | true =>
      rw [List.filter_cons_of_pos hy, selectFrom]
      by_cases hit : s.hits start (start + weight y) = true
      · -- the point lies in no later interval
        have hlater : ∀ n, s.hits (start + (weight y + n)) (start + (weight y + n) + weight x)
            = false := fun n => not_hits_of_le hit (by omega)
        rw [if_pos hit]
        constructor
        · intro e
          obtain rfl := Option.some.inj e
          exact Or.inl ⟨rfl, hy, by simpa using hit⟩
        · rintro (⟨rfl, -⟩ | ⟨before, after, -, -, hit'⟩)
          · rfl
          · rw [List.filter_cons_of_pos hy, List.map_cons, List.sum_cons, hlater] at hit'
            cases hit'
      · rw [if_neg hit, ih]
        constructor
        · rintro ⟨before, after, rfl, hx, hit'⟩
          exact Or.inr ⟨before, after, rfl, hx, by simpa [hy, Nat.add_assoc] using hit'⟩
        · rintro (⟨rfl, -, hit'⟩ | ⟨before, after, rfl, hx, hit'⟩)
          · exact absurd (by simpa using hit') hit
          · exact ⟨before, after, rfl, hx, by simpa [hy, Nat.add_assoc] using hit'⟩

/-- **The item that a point falls on** is the one that counts and whose interval, laid
behind those of the counting items before it, covers the point. -/
theorem select_filter_eq_some_iff {xs : List α} {x : α} :
    s.select weight (xs.filter p) = some x ↔
      ∃ before after, xs = before ++ x :: after ∧ p x = true ∧
        s.hits ((before.filter p).map weight).sum
          (((before.filter p).map weight).sum + weight x) = true := by
  rw [select, selectFrom_filter_eq_some_iff]
  simp only [Nat.zero_add]

theorem mem_of_select {xs : List α} {x : α} (h : s.select weight xs = some x) : x ∈ xs := by
  rw [← List.filter_true xs, select_filter_eq_some_iff] at h
  obtain ⟨before, after, rfl, -⟩ := h
  simp

end

end SplitTest.Selector

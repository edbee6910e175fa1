import SplitTest.SortedMap

/-!
# Rows under their own numbers

A table hands out one number after another, and files each new value under the number that it
gives to it.  A value that replaces another has the number of that, and so every row stands
under the number of its own value (`SortedMap.Filed`).

In such a table a lookup finds the value that has the number, and what a change does to the
rows can be said of the values alone: a new one comes last (`values_insert_next`), one that
replaces another comes in its place (`values_insert`).
-/

namespace SplitTest.SortedMap
variable {α : Type}

/-- Every row stands under the number of its own value, which was given out. -/
structure Filed (m : SortedMap α) (number : α → Int) (last : Nat) : Prop where
  own : ∀ row ∈ m.rows, row.1 = number row.2
  given : ∀ row ∈ m.rows, 0 < row.1 ∧ row.1 ≤ last

theorem filed_empty {number : α → Int} : (empty : SortedMap α).Filed number 0 where
  own := by rintro row ⟨⟩
  given := by rintro row ⟨⟩

namespace Filed
variable {m : SortedMap α} {number : α → Int} {last : Nat} {k : Int} {x : α}

/-! ## Lookups -/

theorem mem_rows_iff (h : m.Filed number last) :
    (k, x) ∈ m.rows ↔ x ∈ m.values ∧ number x = k := by
  rw [mem_values_iff]
  constructor
  · intro hrow
    exact ⟨⟨k, hrow⟩, (h.own (k, x) hrow).symm⟩
  · rintro ⟨⟨j, hrow⟩, rfl⟩
    rwa [← h.own (j, x) hrow]

/-- **What is found under a number is the value that has it.** -/
theorem get?_eq_some_iff (h : m.Filed number last) :
    m.get? k = some x ↔ x ∈ m.values ∧ number x = k :=
  SortedMap.get?_eq_some_iff.trans h.mem_rows_iff

theorem contains_iff (h : m.Filed number last) :
    m.contains k = true ↔ ∃ x ∈ m.values, number x = k := by
  simp only [contains, Option.isSome_iff_exists, h.get?_eq_some_iff]

theorem given_of_mem (h : m.Filed number last) (hx : x ∈ m.values) :
    0 < number x ∧ number x ≤ last :=
  h.given (number x, x) (h.mem_rows_iff.mpr ⟨hx, rfl⟩)

/-- The numbers of the values increase. -/
theorem increasing (h : m.Filed number last) : (m.values.map number).Pairwise (· < ·) := by
  have hnumbers : m.values.map number = m.rows.map Prod.fst := by
    rw [values, List.map_map]
    exact List.map_congr_left fun row hrow => (h.own row hrow).symm
  rw [hnumbers, List.pairwise_map]
  exact m.increasing

theorem nodup (h : m.Filed number last) : (m.values.map number).Nodup :=
  h.increasing.imp Int.ne_of_lt

/-! ## Changes -/

/-- The row of a new value comes last. -/
theorem rows_insert_next (h : m.Filed number last) (x : α) :
    (m.insert (last + 1 : Nat) x).rows = m.rows ++ [(((last + 1 : Nat) : Int), x)] := by
  refine insertRow_of_forall_lt fun row hrow => ?_
  have hle := (h.given row hrow).2
  omega

theorem values_insert_next (h : m.Filed number last) (x : α) :
    (m.insert (last + 1 : Nat) x).values = m.values ++ [x] := by
  rw [values, h.rows_insert_next, List.map_append]
  rfl

/-- **A new value is filed under the number that it is given.** -/
theorem insert_next (h : m.Filed number last) (hx : number x = (last + 1 : Nat)) :
    (m.insert (last + 1 : Nat) x).Filed number (last + 1) where
  own := by
    intro row hrow
    rcases eq_or_mem_of_mem_insertRow hrow with rfl | hold
    · exact hx.symm
    · exact h.own row hold
  given := by
    intro row hrow
    rcases eq_or_mem_of_mem_insertRow hrow with rfl | hold
    · show (0 : Int) < (last + 1 : Nat) ∧ ((last + 1 : Nat) : Int) ≤ (last + 1 : Nat)
      omega
    · have hold := h.given row hold
      omega

/-- A value that replaces another comes in its place. -/
theorem values_insert (h : m.Filed number last) (hx : ∃ y ∈ m.values, number y = number x) :
    (m.insert (number x) x).values =
      m.values.map fun y => if number y = number x then x else y := by
  obtain ⟨y, hy, hnumber⟩ := hx
  have hrows : (m.insert (number x) x).rows =
      m.rows.map fun row => if row.1 = number x then (number x, x) else row :=
    insertRow_of_mem m.increasing ⟨(number x, y), h.mem_rows_iff.mpr ⟨hy, hnumber⟩, rfl⟩
  rw [values, hrows, values, List.map_map, List.map_map]
  refine List.map_congr_left fun row hrow => ?_
  simp only [Function.comp_apply, ← h.own row hrow]
  split <;> rfl

/-- **So is one that replaces another.** -/
theorem insert (h : m.Filed number last) (hx : ∃ y ∈ m.values, number y = number x) :
    (m.insert (number x) x).Filed number last where
  own := by
    intro row hrow
    rcases eq_or_mem_of_mem_insertRow hrow with rfl | hold
    · rfl
    · exact h.own row hold
  given := by
    intro row hrow
    rcases eq_or_mem_of_mem_insertRow hrow with rfl | hold
    · obtain ⟨y, hy, hnumber⟩ := hx
      exact hnumber ▸ h.given_of_mem hy
    · exact h.given row hold

/-- A value is taken out by its number. -/
theorem erase_eq_filter (h : m.Filed number last) (k : Int) :
    m.erase k = m.filter fun x => number x != k := by
  have hrows : (m.erase k).rows = (m.filter fun x => number x != k).rows :=
    List.filter_congr fun row hrow => by rw [h.own row hrow]
  exact SortedMap.ext hrows

theorem filter (h : m.Filed number last) (p : α → Bool) : (m.filter p).Filed number last where
  own := fun row hrow => h.own row (List.mem_filter.mp hrow).1
  given := fun row hrow => h.given row (List.mem_filter.mp hrow).1

end Filed

end SplitTest.SortedMap

/-!
# Maps in the order of their keys

A table of the store keeps each of its rows under a number, in increasing order of the
numbers.  `SortedMap α` is that container, with the order carried as a field.

* `insert` puts a value at the place of its key in the order; a value that was under the key
  gives way to it.
* `erase` and `filter` take values out, and keep the order of the rest.

What a lookup finds under a key is the row that has it (`get?_eq_some_iff`).
-/

namespace SplitTest

/-- The rows with `x` under `k`, at the place of `k` in the order of the keys. -/
def insertRow {α : Type} (k : Int) (x : α) : List (Int × α) → List (Int × α)
  | [] => [(k, x)]
  | row :: rows =>
    if k < row.1 then (k, x) :: row :: rows
    else if row.1 < k then row :: insertRow k x rows
    else (k, x) :: rows

section
variable {α : Type} {k : Int} {x : α} {row : Int × α} {rows : List (Int × α)}

theorem mem_insertRow_self : (k, x) ∈ insertRow k x rows := by
  induction rows with
  | nil => exact List.mem_cons_self
  | cons first rows ih =>
    rw [insertRow]
    split
    · exact List.mem_cons_self
    split
    · exact List.mem_cons_of_mem _ ih
    · exact List.mem_cons_self

theorem eq_or_mem_of_mem_insertRow (h : row ∈ insertRow k x rows) : row = (k, x) ∨ row ∈ rows := by
  induction rows with
  | nil => exact .inl (List.mem_singleton.mp h)
  | cons first rows ih =>
    rw [insertRow] at h
    split at h
    · exact List.mem_cons.mp h
    split at h
    · rcases List.mem_cons.mp h with rfl | h
      · exact .inr List.mem_cons_self
      · exact (ih h).imp_right (List.mem_cons_of_mem _)
    · exact (List.mem_cons.mp h).imp_right (List.mem_cons_of_mem _)

/-- **A row is put at its place**, so that the keys stay in order. -/
theorem pairwise_insertRow (h : rows.Pairwise fun r s => r.1 < s.1) :
    (insertRow k x rows).Pairwise fun r s => r.1 < s.1 := by
  induction rows with
  | nil => exact List.pairwise_singleton _ _
  | cons first rows ih =>
    obtain ⟨hfirst, hrows⟩ := List.pairwise_cons.mp h
    rw [insertRow]
    split
    · next hlt =>
      refine List.pairwise_cons.mpr ⟨fun s hs => ?_, h⟩
      rcases List.mem_cons.mp hs with rfl | hs
      · exact hlt
      · exact Int.lt_trans hlt (hfirst s hs)
    next hle =>
    split
    · next hlt =>
      refine List.pairwise_cons.mpr ⟨fun s hs => ?_, ih hrows⟩
      rcases eq_or_mem_of_mem_insertRow hs with rfl | hs
      · exact hlt
      · exact hfirst s hs
    · next hge =>
      have hsame : k = first.1 := by omega
      exact List.pairwise_cons.mpr ⟨fun s hs => hsame ▸ hfirst s hs, hrows⟩

theorem insertRow_of_forall_lt (h : ∀ row ∈ rows, row.1 < k) :
    insertRow k x rows = rows ++ [(k, x)] := by
  induction rows with
  | nil => rfl
  | cons first rows ih =>
    obtain ⟨hfirst, hrows⟩ := List.forall_mem_cons.mp h
    rw [insertRow, if_neg (by omega), if_pos hfirst, ih hrows, List.cons_append]

theorem insertRow_of_mem (hrows : rows.Pairwise fun r s => r.1 < s.1)
    (h : ∃ row ∈ rows, row.1 = k) :
    insertRow k x rows = rows.map fun row => if row.1 = k then (k, x) else row := by
  induction rows with
  | nil => exact absurd h (by simp)
  | cons first rows ih =>
    obtain ⟨hfirst, hrest⟩ := List.pairwise_cons.mp hrows
    rw [insertRow, List.map_cons]
    obtain ⟨row, hrow, rfl⟩ := h
    rcases List.mem_cons.mp hrow with rfl | hlater
    · -- no later row has the key of the first one
      have hothers : (rows.map fun s => if s.1 = row.1 then (row.1, x) else s) = rows :=
        (List.map_congr_left fun s hs => if_neg (Int.ne_of_gt (hfirst s hs))).trans
          (List.map_id' rows)
      rw [if_neg (Int.lt_irrefl _), if_neg (Int.lt_irrefl _), if_pos rfl, hothers]
    · have hlt : first.1 < row.1 := hfirst row hlater
      rw [if_neg (by omega), if_pos hlt, if_neg (Int.ne_of_lt hlt), ih hrest ⟨row, hlater, rfl⟩]

end

/-- Values under numbers, in increasing order of the numbers. -/
@[ext] structure SortedMap (α : Type) where
  /-- The values in order, each with its key. -/
  rows : List (Int × α)
  /-- The keys increase. -/
  increasing : rows.Pairwise fun r s => r.1 < s.1
deriving DecidableEq, Repr

namespace SortedMap
variable {α : Type}

/-- The map without rows. -/
def empty : SortedMap α := ⟨[], .nil⟩

instance : Inhabited (SortedMap α) := ⟨empty⟩

/-- The values in the order of their keys. -/
def values (m : SortedMap α) : List α := m.rows.map Prod.snd

/-- The value under a key. -/
def get? (m : SortedMap α) (k : Int) : Option α :=
  (m.rows.find? fun row => row.1 == k).map Prod.snd

/-- Whether some value is under a key. -/
def contains (m : SortedMap α) (k : Int) : Bool := (m.get? k).isSome

/-- Put a value under a key, in the place of the one that is there. -/
def insert (m : SortedMap α) (k : Int) (x : α) : SortedMap α where
  rows := insertRow k x m.rows
  increasing := pairwise_insertRow m.increasing

/-- Take out the value under a key, if any. -/
def erase (m : SortedMap α) (k : Int) : SortedMap α where
  rows := m.rows.filter fun row => row.1 != k
  increasing := m.increasing.sublist List.filter_sublist

/-- Only those values that pass a test. -/
def filter (m : SortedMap α) (p : α → Bool) : SortedMap α where
  rows := m.rows.filter fun row => p row.2
  increasing := m.increasing.sublist List.filter_sublist

/-! ## What is found -/

section
variable {m : SortedMap α} {k : Int} {x y : α}

/-- **A lookup finds the one row that has the key.** -/
theorem get?_eq_some_iff : m.get? k = some x ↔ (k, x) ∈ m.rows := by
  rw [get?, Option.map_eq_some_iff]
  constructor
  · rintro ⟨row, hrow, rfl⟩
    have hkey : row.1 = k := by simpa using List.find?_some hrow
    exact hkey ▸ List.mem_of_find?_eq_some hrow
  · intro hmem
    obtain ⟨before, after, hrows⟩ := List.append_of_mem hmem
    refine ⟨(k, x), ?_, rfl⟩
    refine List.find?_eq_some_iff_append.mpr ⟨beq_self_eq_true k, before, after, hrows, ?_⟩
    -- what stands before the row has a smaller key
    intro row hrow
    have hlt := m.increasing
    rw [hrows, List.pairwise_append] at hlt
    simp [Int.ne_of_lt (hlt.2.2 row hrow (k, x) List.mem_cons_self)]

theorem mem_values_iff : x ∈ m.values ↔ ∃ k, (k, x) ∈ m.rows := by
  rw [values, List.mem_map]
  exact ⟨fun ⟨row, hrow, h⟩ => ⟨row.1, h ▸ hrow⟩, fun ⟨k, h⟩ => ⟨(k, x), h, rfl⟩⟩

theorem mem_values_insert_self : x ∈ (m.insert k x).values :=
  mem_values_iff.mpr ⟨k, mem_insertRow_self⟩

theorem eq_or_mem_of_mem_values_insert (h : y ∈ (m.insert k x).values) : y = x ∨ y ∈ m.values := by
  obtain ⟨j, hrow⟩ := mem_values_iff.mp h
  rcases eq_or_mem_of_mem_insertRow hrow with hnew | hold
  · exact .inl (congrArg Prod.snd hnew)
  · exact .inr (mem_values_iff.mpr ⟨j, hold⟩)

theorem values_filter (m : SortedMap α) (p : α → Bool) :
    (m.filter p).values = m.values.filter p :=
  List.filter_map.symm

end

end SortedMap

end SplitTest

/-!
# Lists whose elements have distinct keys

Datasets, conditions, site settings, sessions and script registries are all the
same container: a list in stored order in which no two elements share a key.
`Keyed key` is that container, with the distinctness of the keys carried as a
field.

* `insert` overwrites: an element whose key is taken replaces the earlier one
  **in its place**, any other goes to the end.
* `insertNew` is first write wins: a taken key leaves the list alone.
* `erase` drops a key and keeps the order of the rest.

`Dictionary α` is the case of pairs keyed by their first component.
-/

namespace SplitTest

/-- The list with `x` in the place of the element that has its key, or at the end. -/
def upsert {α : Type} (key : α → String) (x : α) : List α → List α
  | [] => [x]
  | y :: ys => if key y = key x then x :: ys else y :: upsert key x ys

section
variable {α : Type} (key : α → String)

theorem map_key_upsert_of_mem {x : α} :
    ∀ {ys : List α}, key x ∈ ys.map key → (upsert key x ys).map key = ys.map key
  | [], h => by simp at h
  | y :: ys, h => by
    by_cases hy : key y = key x
    · simp [upsert, hy]
    · have h' : key x ∈ ys.map key := by
        simpa [List.mem_cons, Ne.symm hy] using h
      simp only [upsert, if_neg hy, List.map_cons, map_key_upsert_of_mem h']

theorem map_key_upsert_of_not_mem {x : α} :
    ∀ {ys : List α}, key x ∉ ys.map key → (upsert key x ys).map key = ys.map key ++ [key x]
  | [], _ => rfl
  | y :: ys, h => by
    have hy : key y ≠ key x := fun e => h (by simp [e])
    have h' : key x ∉ ys.map key := fun m => h (by rw [List.map_cons]; exact .tail _ m)
    simp only [upsert, if_neg hy, List.map_cons, map_key_upsert_of_not_mem h', List.cons_append]

theorem find?_upsert_self {x : α} :
    ∀ {ys : List α}, (upsert key x ys).find? (fun y => key y == key x) = some x
  | [] => by simp [upsert]
  | y :: ys => by
    by_cases hy : key y = key x
    · simp [upsert, hy]
    · simp only [upsert, if_neg hy, List.find?_cons, beq_eq_false_iff_ne.2 hy]
      exact find?_upsert_self

theorem find?_upsert_of_ne {x : α} {k : String} (h : k ≠ key x) :
    ∀ {ys : List α},
      (upsert key x ys).find? (fun y => key y == k) = ys.find? (fun y => key y == k)
  | [] => by simp [upsert, Ne.symm h]
  | y :: ys => by
    by_cases hy : key y = key x
    · have hk : ¬key x = k := Ne.symm h
      simp [upsert, hy, hk]
    · simp only [upsert, if_neg hy, List.find?_cons, find?_upsert_of_ne h]

theorem nodup_map_key_upsert {x : α} {ys : List α} (h : (ys.map key).Nodup) :
    ((upsert key x ys).map key).Nodup := by
  by_cases hx : key x ∈ ys.map key
  · rw [map_key_upsert_of_mem key hx]; exact h
  · rw [map_key_upsert_of_not_mem key hx, (List.perm_append_singleton _ _).nodup_iff]
    exact List.nodup_cons.2 ⟨hx, h⟩

end

/-- A list in stored order, no two of whose elements have the same key. -/
structure Keyed {α : Type} (key : α → String) where
  /-- The elements in stored order. -/
  items : List α
  /-- No two of them share a key. -/
  distinct : (items.map key).Nodup

namespace Keyed
variable {α : Type} {key : α → String}

/-- The container without elements. -/
def empty : Keyed key := ⟨[], by simp⟩

instance : EmptyCollection (Keyed key) := ⟨empty⟩
instance : Inhabited (Keyed key) := ⟨empty⟩

@[ext] theorem ext {s t : Keyed key} (h : s.items = t.items) : s = t := by
  cases s; cases t; cases h; rfl

instance [DecidableEq α] : DecidableEq (Keyed key) := fun s t =>
  decidable_of_iff (s.items = t.items) ⟨ext, fun h => h ▸ rfl⟩

/-- The keys in stored order. -/
def keys (s : Keyed key) : List String := s.items.map key

/-- Number of elements. -/
def size (s : Keyed key) : Nat := s.items.length

/-- Whether there is no element. -/
def isEmpty (s : Keyed key) : Bool := s.items.isEmpty

/-- The element with key `k`. -/
def find? (s : Keyed key) (k : String) : Option α := s.items.find? fun x => key x == k

/-- Whether some element has key `k`. -/
def contains (s : Keyed key) (k : String) : Bool := (s.find? k).isSome

/-- Put `x` in the place of the element that has its key, or at the end. -/
def insert (s : Keyed key) (x : α) : Keyed key where
  items := upsert key x s.items
  distinct := nodup_map_key_upsert key s.distinct

/-- The elements in order, each overwriting an earlier one with its key in its place. -/
def ofList (xs : List α) : Keyed key := xs.foldl insert empty

theorem not_mem_keys_of_contains_eq_false {s : Keyed key} {k : String}
    (h : s.contains k = false) : k ∉ s.items.map key := by
  intro hk
  obtain ⟨x, hx, rfl⟩ := List.mem_map.1 hk
  simp only [contains, find?, Option.isSome_eq_false_iff, Option.isNone_iff_eq_none,
    List.find?_eq_none] at h
  exact h x hx (by simp)

/-- Put `x` at the end unless its key is taken. -/
def insertNew (s : Keyed key) (x : α) : Keyed key :=
  match h : s.contains (key x) with
  | true => s
  | false =>
    { items := s.items ++ [x]
      distinct := by
        rw [List.map_append, List.map_singleton, (List.perm_append_singleton _ _).nodup_iff]
        exact List.nodup_cons.2 ⟨not_mem_keys_of_contains_eq_false h, s.distinct⟩ }

/-- Drop the element with key `k`, if any. -/
def erase (s : Keyed key) (k : String) : Keyed key where
  items := s.items.filter fun x => key x != k
  distinct := s.distinct.sublist (List.Sublist.map key List.filter_sublist)

/-! ## What is found -/

@[simp] theorem find?_empty (k : String) : (empty : Keyed key).find? k = none := rfl

@[simp] theorem find?_insert_self (s : Keyed key) (x : α) :
    (s.insert x).find? (key x) = some x := find?_upsert_self key

theorem find?_insert_of_ne {s : Keyed key} {x : α} {k : String} (h : k ≠ key x) :
    (s.insert x).find? k = s.find? k := find?_upsert_of_ne key h

theorem contains_iff_mem_keys {s : Keyed key} {k : String} :
    s.contains k = true ↔ k ∈ s.keys := by
  simp [contains, find?, keys, List.find?_isSome]

theorem key_of_find? {s : Keyed key} {k : String} {x : α} (h : s.find? k = some x) :
    key x = k := by
  simpa using List.find?_some h

theorem insertNew_of_contains {s : Keyed key} {x : α} (h : s.contains (key x) = true) :
    s.insertNew x = s := by
  unfold insertNew
  split
  · rfl
  · next h' => rw [h] at h'; cases h'

theorem items_insertNew {s : Keyed key} {x : α} (h : s.contains (key x) = false) :
    (s.insertNew x).items = s.items ++ [x] := by
  unfold insertNew
  split
  · next h' => rw [h] at h'; cases h'
  · rfl

theorem find?_insertNew_self {s : Keyed key} {x : α} (h : s.contains (key x) = false) :
    (s.insertNew x).find? (key x) = some x := by
  have hs : s.items.find? (fun y => key y == key x) = none := by
    simpa [contains, find?] using h
  simp [find?, items_insertNew h, List.find?_append, hs]

theorem find?_insertNew_of_ne {s : Keyed key} {x : α} {k : String} (h : k ≠ key x) :
    (s.insertNew x).find? k = s.find? k := by
  cases hc : s.contains (key x) with
  | true => rw [insertNew_of_contains hc]
  | false => simp [find?, items_insertNew hc, List.find?_append, Ne.symm h]

@[simp] theorem find?_erase_self (s : Keyed key) (k : String) : (s.erase k).find? k = none := by
  simp [find?, erase, List.find?_eq_none]

theorem find?_erase_of_ne {s : Keyed key} {j k : String} (h : j ≠ k) :
    (s.erase k).find? j = s.find? j := by
  simp only [find?, erase, List.find?_filter]
  congr 1
  funext x
  by_cases hx : key x = j
  · simp [hx, h]
  · simp [hx]

end Keyed

/-- A finite map from names to values, in order of first insertion. -/
abbrev Dictionary (α : Type) := Keyed (Prod.fst : String × α → String)

namespace Dictionary
variable {α : Type}

/-- The value stored under `k`. -/
def get? (d : Dictionary α) (k : String) : Option α := (d.find? k).map Prod.snd

/-- Store `v` under `k`, in the place of an earlier value. -/
def set (d : Dictionary α) (k : String) (v : α) : Dictionary α := d.insert (k, v)

@[simp] theorem get?_set_self (d : Dictionary α) (k : String) (v : α) :
    (d.set k v).get? k = some v := by
  rw [get?, set, show k = Prod.fst (k, v) from rfl, Keyed.find?_insert_self]
  rfl

theorem get?_set_of_ne {d : Dictionary α} {j k : String} {v : α} (h : j ≠ k) :
    (d.set k v).get? j = d.get? j := by
  rw [get?, set, Keyed.find?_insert_of_ne h, get?]

/-- The pairs ordered by key, by code point. -/
def sorted (d : Dictionary α) : List (String × α) :=
  d.items.mergeSort fun a b => decide (a.1 ≤ b.1)

end Dictionary

end SplitTest

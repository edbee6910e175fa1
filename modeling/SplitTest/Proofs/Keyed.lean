import SplitTest.Keyed
import SplitTest.Proofs.Lists

/-!
# Lookups and building

What a lookup finds is exactly an element of the container (`find?_eq_some_iff`), and
building a container from a list whose keys are distinct already is no work: the
elements are the list (`items_ofList`).  Where keys are repeated, the last element of a key
is the one that is found (`find?_ofList`).

Taking keys out leaves the other elements as they are and in their order
(`Keyed.without`), and erasing one key after another comes to that.
-/

namespace SplitTest

/-- An element whose key is not taken is put at the end. -/
theorem upsert_of_not_mem {α : Type} (key : α → String) {x : α} :
    ∀ {ys : List α}, key x ∉ ys.map key → upsert key x ys = ys ++ [x]
  | [], _ => rfl
  | y :: ys, h => by
    have hy : key y ≠ key x := fun e => h (by simp [e])
    have h' : key x ∉ ys.map key := fun m => h (by rw [List.map_cons]; exact .tail _ m)
    rw [upsert, if_neg hy, upsert_of_not_mem key h', List.cons_append]

namespace Keyed
variable {α : Type} {key : α → String}

theorem eq_of_key_eq (s : Keyed key) {x y : α} (hx : x ∈ s.items) (hy : y ∈ s.items)
    (e : key x = key y) : x = y :=
  List.inj_on_of_nodup_map s.distinct hx hy e

/-- **A lookup finds the one element that has the key.** -/
theorem find?_eq_some_iff {s : Keyed key} {k : String} {x : α} :
    s.find? k = some x ↔ x ∈ s.items ∧ key x = k :=
  find?_eq_some_iff_of_nodup s.distinct

theorem find?_of_mem {s : Keyed key} {x : α} (h : x ∈ s.items) : s.find? (key x) = some x :=
  find?_eq_some_iff.mpr ⟨h, rfl⟩

theorem isSome_find?_iff {s : Keyed key} {k : String} :
    (s.find? k).isSome = true ↔ k ∈ s.keys :=
  contains_iff_mem_keys

theorem nodup_items (s : Keyed key) : s.items.Nodup :=
  List.Nodup.of_map key s.distinct

theorem items_insert_of_not_mem {s : Keyed key} {x : α} (h : key x ∉ s.keys) :
    (s.insert x).items = s.items ++ [x] :=
  upsert_of_not_mem key h

theorem items_foldl_insert {xs : List α} :
    ∀ {s : Keyed key}, ((s.items ++ xs).map key).Nodup →
      (xs.foldl insert s).items = s.items ++ xs := by
  induction xs with
  | nil => intro s _; simp
  | cons x xs ih =>
    intro s h
    have hx : key x ∉ s.keys := by
      intro m
      rw [List.map_append, List.nodup_append] at h
      exact h.2.2 _ m _ (by simp) rfl
    have hs : (s.insert x).items = s.items ++ [x] := items_insert_of_not_mem hx
    rw [List.foldl_cons, ih (by rw [hs]; simpa using h), hs, List.append_assoc,
      List.singleton_append]

/-- **A list whose keys are distinct is kept as it is.** -/
theorem items_ofList {xs : List α} (h : (xs.map key).Nodup) : (ofList xs : Keyed key).items = xs := by
  have hempty : (((empty : Keyed key).items ++ xs).map key).Nodup := by simpa [empty] using h
  simpa [ofList, empty] using items_foldl_insert hempty

/-- What is found once an element was put in: it, under its key. -/
theorem find?_insert (s : Keyed key) (x : α) (k : String) :
    (s.insert x).find? k = if key x = k then some x else s.find? k := by
  split
  · next h => rw [← h, find?_insert_self]
  · next h => rw [find?_insert_of_ne (Ne.symm h)]

theorem find?_foldl_insert {xs : List α} {k : String} :
    ∀ {s : Keyed key}, (xs.foldl insert s).find? k =
      (xs.reverse.find? fun x => key x == k).or (s.find? k) := by
  induction xs with
  | nil => exact fun {s} => rfl
  | cons x xs ih =>
    intro s
    rw [List.foldl_cons, ih, find?_insert, List.reverse_cons, List.find?_append, Option.or_assoc]
    by_cases hx : key x = k <;> simp [hx]

/-- **Of the elements of a list that share a key, the last is found under it.** -/
theorem find?_ofList (xs : List α) (k : String) :
    (ofList xs : Keyed key).find? k = xs.reverse.find? fun x => key x == k := by
  rw [ofList, find?_foldl_insert, find?_empty, Option.or_none]

/-! ## First write wins -/

theorem contains_insertNew_self (s : Keyed key) (x : α) :
    (s.insertNew x).contains (key x) = true := by
  cases h : s.contains (key x) with
  | true => rw [insertNew_of_contains h, h]
  | false => rw [contains, find?_insertNew_self h, Option.isSome_some]

theorem contains_insertNew {s : Keyed key} {x : α} {k : String} (h : s.contains k = true) :
    (s.insertNew x).contains k = true := by
  by_cases hk : k = key x
  · rw [hk]
    exact contains_insertNew_self s x
  · rw [contains, find?_insertNew_of_ne hk]
    exact h

/-- The keys of a list are taken after its elements were offered, and no key is given back. -/
theorem contains_foldl_insertNew {xs : List α} {k : String} :
    ∀ {s : Keyed key}, (s.contains k = true ∨ k ∈ xs.map key) →
      (xs.foldl insertNew s).contains k = true := by
  induction xs with
  | nil => exact fun h => h.resolve_right List.not_mem_nil
  | cons x xs ih =>
    intro s h
    refine ih ?_
    rcases h with h | h
    · exact Or.inl (contains_insertNew h)
    · rcases List.mem_cons.mp h with rfl | h
      · exact Or.inl (contains_insertNew_self s x)
      · exact Or.inr h

/-- Elements whose keys are taken are offered in vain. -/
theorem foldl_insertNew_of_contains {xs : List α} {s : Keyed key}
    (h : ∀ x ∈ xs, s.contains (key x) = true) : xs.foldl insertNew s = s := by
  induction xs with
  | nil => rfl
  | cons x xs ih =>
    obtain ⟨hx, hxs⟩ := List.forall_mem_cons.mp h
    rw [List.foldl_cons, insertNew_of_contains hx]
    exact ih hxs

/-- **Offering a list again changes nothing.** -/
theorem foldl_insertNew_again (xs : List α) (s : Keyed key) :
    xs.foldl insertNew (xs.foldl insertNew s) = xs.foldl insertNew s :=
  foldl_insertNew_of_contains fun _ hx =>
    contains_foldl_insertNew (Or.inr (List.mem_map_of_mem hx))

/-! ## Taking keys out -/

/-- What is left without the elements of some keys, in its order. -/
def without (s : Keyed key) (ks : List String) : Keyed key where
  items := s.items.filter fun x => key x ∉ ks
  distinct := s.distinct.sublist (List.filter_sublist.map key)

@[simp] theorem without_nil (s : Keyed key) : s.without [] = s :=
  Keyed.ext (List.filter_eq_self.mpr (by simp))

theorem erase_eq_without (s : Keyed key) (k : String) : s.erase k = s.without [k] :=
  Keyed.ext (List.filter_congr fun x _ => by rw [Bool.eq_iff_iff]; simp)

theorem without_without (s : Keyed key) (ks ls : List String) :
    (s.without ks).without ls = s.without (ks ++ ls) := by
  refine Keyed.ext ?_
  show (s.items.filter _).filter _ = s.items.filter _
  rw [List.filter_filter]
  exact List.filter_congr fun x _ => by simp [Bool.and_comm]

/-- Only which keys are taken out matters. -/
theorem without_congr (s : Keyed key) {ks ls : List String} (h : ∀ k, k ∈ ks ↔ k ∈ ls) :
    s.without ks = s.without ls :=
  Keyed.ext (List.filter_congr fun x _ => by simp only [h])

theorem find?_without (s : Keyed key) (ks : List String) (k : String) :
    (s.without ks).find? k = if k ∈ ks then none else s.find? k := by
  refine Option.ext fun x => ?_
  rw [find?_eq_some_iff, without, List.mem_filter, decide_eq_true_eq]
  split
  · next h => exact iff_of_false (fun ⟨⟨_, hx⟩, e⟩ => hx (e ▸ h)) (by simp)
  · next h =>
    rw [find?_eq_some_iff]
    exact ⟨fun ⟨⟨hx, _⟩, e⟩ => ⟨hx, e⟩, fun ⟨hx, e⟩ => ⟨⟨hx, e ▸ h⟩, e⟩⟩

end Keyed

namespace Dictionary
variable {α : Type}

/-- **A value is stored under a key exactly when the pair is in the dictionary.** -/
theorem get?_eq_some_iff {d : Dictionary α} {k : String} {x : α} :
    d.get? k = some x ↔ (k, x) ∈ d.items := by
  rw [get?, Option.map_eq_some_iff]
  constructor
  · rintro ⟨⟨k', x'⟩, hfind, rfl⟩
    obtain ⟨hmem, rfl⟩ := Keyed.find?_eq_some_iff.mp hfind
    exact hmem
  · intro h
    exact ⟨(k, x), Keyed.find?_of_mem h, rfl⟩

theorem isSome_get? {d : Dictionary α} {k : String} : (d.get? k).isSome = d.contains k :=
  Option.isSome_map

theorem get?_without (d : Dictionary α) (ks : List String) (k : String) :
    get? (d.without ks) k = if k ∈ ks then none else d.get? k := by
  rw [get?, Keyed.find?_without]
  split <;> rfl

/-- The order of a dictionary is nothing to its lookups. -/
theorem get?_eq_of_perm {d d' : Dictionary α} (h : d.items.Perm d'.items) (k : String) :
    d.get? k = d'.get? k :=
  Option.ext fun x => by rw [get?_eq_some_iff, get?_eq_some_iff, h.mem_iff]

/-- A dictionary is its keys in order, with what is stored under each. -/
theorem items_eq_filterMap_keys (d : Dictionary α) :
    d.items = d.keys.filterMap fun k => (d.get? k).map fun x => (k, x) := by
  have hstored : ∀ p ∈ d.items, ((d.get? p.1).map fun x => (p.1, x)) = some p := fun p hp => by
    rw [get?_eq_some_iff.mpr hp]
    rfl
  rw [Keyed.keys, List.filterMap_map]
  exact (List.filterMap_some.symm.trans (List.filterMap_congr fun p hp => (hstored p hp).symm))

/-- Dictionaries with the same keys in the same order that store the same are equal. -/
theorem ext_get? {d d' : Dictionary α} (hkeys : d.keys = d'.keys)
    (hget : ∀ k, d.get? k = d'.get? k) : d = d' := by
  refine Keyed.ext ?_
  rw [items_eq_filterMap_keys d, items_eq_filterMap_keys d', hkeys]
  exact List.filterMap_congr fun k _ => by rw [hget k]

/-- Writing a key that is taken keeps the keys and their order. -/
theorem keys_set {d : Dictionary α} {k : String} (h : (d.get? k).isSome = true) (x : α) :
    (d.set k x).keys = d.keys := by
  rw [isSome_get?, Keyed.contains_iff_mem_keys] at h
  exact map_key_upsert_of_mem Prod.fst h

end Dictionary

end SplitTest

import SplitTest.Condition

/-!
# Sets of users

The users of a list are those of its set (`UserSet.contains_ofList`).  A set whose users are
listed and entered again is the same set (`UserSet.ofList_ids`), since they are listed in
increasing order and each then comes to stand at the end.
-/

namespace SplitTest

theorem insertIncreasing_of_lt {n : Int} {ms : List Int} (h : ∀ m ∈ ms, m < n) :
    insertIncreasing n ms = ms ++ [n] := by
  induction ms with
  | nil => rfl
  | cons m ms ih =>
    have hm := h m List.mem_cons_self
    rw [insertIncreasing, if_neg (by omega), if_neg (by omega),
      ih fun k hk => h k (List.mem_cons_of_mem m hk)]
    rfl

namespace UserSet

theorem contains_insert (s : UserSet) (n u : Int) :
    (s.insert n).contains u = true ↔ u = n ∨ s.contains u = true := by
  rw [contains, contains, List.contains_iff_mem, List.contains_iff_mem]
  exact mem_insertIncreasing

theorem contains_foldl_insert (ns : List Int) (u : Int) : ∀ s : UserSet,
    (ns.foldl insert s).contains u = true ↔ s.contains u = true ∨ u ∈ ns := by
  induction ns with
  | nil => exact fun s => by simp
  | cons n ns ih =>
    intro s
    rw [List.foldl_cons, ih, contains_insert, List.mem_cons, or_comm (a := u = n), or_assoc]

/-- The users of a list are in its set. -/
theorem contains_ofList (ns : List Int) (u : Int) : (ofList ns).contains u = true ↔ u ∈ ns := by
  rw [ofList, contains_foldl_insert]
  exact or_iff_right (by rintro ⟨⟩)

theorem ids_foldl_insert {ns : List Int} : ∀ {s : UserSet},
    (s.ids ++ ns).Pairwise (· < ·) → (ns.foldl insert s).ids = s.ids ++ ns := by
  induction ns with
  | nil => exact fun _ => (List.append_nil _).symm
  | cons n ns ih =>
    intro s h
    have hlast : (s.insert n).ids = s.ids ++ [n] :=
      insertIncreasing_of_lt fun m hm => (List.pairwise_append.mp h).2.2 m hm n List.mem_cons_self
    have hrest : (s.insert n).ids ++ ns = s.ids ++ n :: ns := by
      rw [hlast, List.append_assoc]
      rfl
    rw [List.foldl_cons, ih (by rw [hrest]; exact h), hrest]

theorem eq_of_ids {s t : UserSet} (h : s.ids = t.ids) : s = t := by
  cases s; cases t; cases h; rfl

/-- **A set of users listed and entered is the same set.** -/
theorem ofList_ids (s : UserSet) : ofList s.ids = s :=
  eq_of_ids (ids_foldl_insert (s := empty) s.increasing)

end UserSet

end SplitTest

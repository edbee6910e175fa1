import Mathlib.Data.List.Nodup

/-!
# Lists with distinct keys

What looking up, replacing and removing an element by its key come to when the keys of a
list are distinct.  Replacing keeps the keys, and removing by one key is removing by
another when the two agree on which element is meant.  Any list has, besides, a list of
choices where each element has one, the values of a partial map where each has one, and
beginnings that stop before an element they do not have; and where it is cut at an element,
that is its last one or stands before it.
-/

namespace SplitTest

section
variable {α κ β : Type} {key : α → κ} {l : List α}

/-- **A lookup by a distinct key finds the one element that has it.** -/
theorem find?_eq_some_iff_of_nodup [BEq κ] [LawfulBEq κ] (h : (l.map key).Nodup) {k : κ} {x : α} :
    l.find? (fun y => key y == k) = some x ↔ x ∈ l ∧ key x = k := by
  constructor
  · intro hfind
    exact ⟨List.mem_of_find?_eq_some hfind, by simpa using List.find?_some hfind⟩
  · rintro ⟨hx, rfl⟩
    cases hfind : l.find? (fun y => key y == key x) with
    | none => exact absurd (beq_self_eq_true (key x)) (List.find?_eq_none.mp hfind x hx)
    | some y =>
      have hy := List.find?_some hfind
      rw [List.inj_on_of_nodup_map h (List.mem_of_find?_eq_some hfind) hx (by simpa using hy)]

/-- **What the elements of a list are expanded to can be told apart by their keys**: what has
a key comes from the element that has it. -/
theorem filter_flatMap_of_nodup [BEq κ] [LawfulBEq κ] {f : α → List β} {tag : β → κ}
    (h : (l.map key).Nodup) (htag : ∀ x ∈ l, ∀ y ∈ f x, tag y = key x) (k : κ) :
    (l.flatMap f).filter (fun y => tag y == k) =
      ((l.find? fun x => key x == k).map f).getD [] := by
  induction l with
  | nil => rfl
  | cons x l ih =>
    obtain ⟨hx, hl⟩ := List.nodup_cons.mp h
    obtain ⟨hfirst, hrest⟩ := List.forall_mem_cons.mp htag
    rw [List.flatMap_cons, List.filter_append, ih hl hrest, List.find?_cons]
    cases hk : key x == k with
    | true =>
      -- no later element has the key
      have hnone : l.find? (fun y => key y == k) = none :=
        List.find?_eq_none.mpr fun y hy hyk => hx <| by
          rw [beq_iff_eq.mp hk, ← beq_iff_eq.mp hyk]
          exact List.mem_map_of_mem hy
      rw [hnone, List.filter_eq_self.mpr fun y hy => by rw [hfirst y hy, hk]]
      exact List.append_nil _
    | false =>
      rw [List.filter_eq_nil_iff.mpr fun y hy => by rw [hfirst y hy, hk]; exact Bool.false_ne_true]
      rfl

/-- What every element has one of can be listed beside the elements. -/
theorem exists_list_beside {P : α → β → Prop} (h : ∀ x ∈ l, ∃ y, P x y) :
    ∃ ps : List (α × β), ps.map Prod.fst = l ∧ ∀ p ∈ ps, P p.1 p.2 := by
  induction l with
  | nil => exact ⟨[], rfl, by rintro p ⟨⟩⟩
  | cons x l ih =>
    obtain ⟨hx, hl⟩ := List.forall_mem_cons.mp h
    obtain ⟨y, hy⟩ := hx
    obtain ⟨ps, rfl, hps⟩ := ih hl
    exact ⟨(x, y) :: ps, rfl, List.forall_mem_cons.mpr ⟨hy, hps⟩⟩

/-- An element of a list that was put on the end is the last one, or is in the list before. -/
theorem concat_eq_append_cons_iff {before after : List α} {x y : α} :
    l ++ [x] = before ++ y :: after ↔
      after = [] ∧ l = before ∧ x = y ∨ ∃ rest, after = rest ++ [x] ∧ l = before ++ y :: rest := by
  rcases List.eq_nil_or_concat after with rfl | ⟨rest, z, rfl⟩
  · simp [List.append_singleton_inj]
  · rw [List.concat_eq_append, ← List.cons_append, ← List.append_assoc,
      List.append_singleton_inj]
    constructor
    · rintro ⟨rfl, rfl⟩
      exact .inr ⟨rest, rfl, rfl⟩
    · rintro (⟨hnil, -⟩ | ⟨rest', hrest, rfl⟩)
      · exact absurd hnil (by simp)
      · obtain ⟨rfl, rfl⟩ := List.append_singleton_inj.mp hrest
        exact ⟨rfl, rfl⟩

/-- The values of a partial map on a list are those on its elements. -/
theorem mapM_eq_some_iff {f : α → Option β} {r : List β} :
    l.mapM f = some r ↔ l.map f = r.map some := by
  induction l generalizing r with
  | nil => cases r <;> simp
  | cons x l ih =>
    cases hx : f x with
    | none => cases r <;> simp [List.mapM_cons, hx]
    | some y => cases r <;> simp [List.mapM_cons, hx, ih, Option.bind_eq_some_iff, and_comm]

/-- A list without `x` does not reach beyond it. -/
theorem isPrefix_append_cons_iff {ps qs rs : List α} {x : α} (hx : x ∉ ps) :
    ps <+: qs ++ x :: rs ↔ ps <+: qs := by
  refine ⟨fun h => ?_, fun h => h.trans (List.prefix_append qs _)⟩
  rcases List.prefix_or_prefix_of_prefix h (List.prefix_append qs (x :: rs)) with hle | ⟨r, rfl⟩
  · exact hle
  · rw [List.prefix_append_right_inj] at h
    cases r with
    | nil => simp
    | cons y r =>
      obtain ⟨rfl, -⟩ := List.cons_prefix_cons.mp h
      exact absurd (List.mem_append_right qs List.mem_cons_self) hx

/-- An element with a new key can be put at the end. -/
theorem nodup_map_concat (h : (l.map key).Nodup) {x : α} (hx : ∀ a ∈ l, key a ≠ key x) :
    ((l ++ [x]).map key).Nodup := by
  have hnew : key x ∉ l.map key := by
    intro hmem
    obtain ⟨a, ha, hkey⟩ := List.mem_map.mp hmem
    exact hx a ha hkey
  rw [List.map_append, List.map_singleton, ← List.concat_eq_append]
  exact h.concat hnew

variable [DecidableEq κ]

/-- The list with `x` in the place of the elements that have its key. -/
theorem map_key_replace (key : α → κ) (x : α) (l : List α) :
    (l.map fun a => if key a = key x then x else a).map key = l.map key := by
  rw [List.map_map]
  refine List.map_congr_left fun a _ => ?_
  show key (if key a = key x then x else a) = key a
  split
  · next h => exact h.symm
  · rfl

/-- **Replacing keeps a second key distinct**, if no other element has that of the new
one. -/
theorem nodup_map_replace {f : α → β} {x : α} (hkey : (l.map key).Nodup) (hf : (l.map f).Nodup)
    (hx : ∀ a ∈ l, key a ≠ key x → f a ≠ f x) :
    ((l.map fun a => if key a = key x then x else a).map f).Nodup := by
  rw [List.map_map]
  refine (List.Nodup.of_map key hkey).map_on fun a ha b hb hab => ?_
  simp only [Function.comp_apply] at hab
  by_cases hax : key a = key x
  · by_cases hbx : key b = key x
    · exact List.inj_on_of_nodup_map hkey ha hb (hax.trans hbx.symm)
    · rw [if_pos hax, if_neg hbx] at hab
      exact absurd hab.symm (hx b hb hbx)
  · by_cases hbx : key b = key x
    · rw [if_neg hax, if_pos hbx] at hab
      exact absurd hab (hx a ha hax)
    · rw [if_neg hax, if_neg hbx] at hab
      exact List.inj_on_of_nodup_map hf ha hb hab

end

end SplitTest

import SplitTest.Host.Execution
import SplitTest.Proofs.Keyed
import Mathlib.Data.List.Induction

/-!
# Registries of scripts over time

A registry that starts empty is changed by sets, which offer a body under a key, and by
removals.  What is pending after such changes can be said without it: a key that was set since
it was last removed (`SetSince`), with the body of the first such set (`FirstSet`).  A registry
that holds exactly the first sets of what was done, in their order (`ScriptRegistry.Holds`),
does so after another change, and this settles what later sets and removals are answered.

The scripts of experiments on a page are queued by such sets (`Host.queueScript_eq`).
-/

namespace SplitTest

/-- What is done to a registry. -/
inductive ScriptChange where
  /-- A body is offered under a key. -/
  | set (key body : String)
  /-- A key is taken out. -/
  | remove (key : String)
deriving DecidableEq, Repr

/-- A body was set under a key next after `before`, and the key was not removed after that. -/
def SetAfter (before cs : List ScriptChange) (k body : String) : Prop :=
  ∃ after, cs = before ++ .set k body :: after ∧ .remove k ∉ after

/-- A key was set since it was last removed. -/
def SetSince (k : String) (cs : List ScriptChange) : Prop :=
  ∃ before body, SetAfter before cs k body

/-- The change at a place is the first set of a key since its last removal: the key was not
removed after it, and what was set before it, if anything, was removed before it. -/
def FirstSet (cs : List ScriptChange) (k body : String) (i : Nat) : Prop :=
  ∃ before, SetAfter before cs k body ∧ before.length = i ∧ ¬SetSince k before

section Changes
variable {before cs : List ScriptChange} {c : ScriptChange} {k body : String} {i : Nat}

theorem FirstSet.setSince : FirstSet cs k body i → SetSince k cs :=
  fun ⟨before, hset, _, _⟩ => ⟨before, body, hset⟩

theorem FirstSet.lt_length : FirstSet cs k body i → i < cs.length := by
  rintro ⟨before, ⟨after, rfl, -⟩, rfl, -⟩
  rw [List.length_append, List.length_cons]
  omega

theorem not_setSince_nil : ¬SetSince k [] := by
  rintro ⟨before, b, after, hcs, -⟩
  exact List.append_ne_nil_of_right_ne_nil before (List.cons_ne_nil _ after) hcs.symm

/-- **One more change** is the set itself, or comes after it and does not remove its key. -/
theorem setAfter_concat :
    SetAfter before (cs ++ [c]) k body ↔
      SetAfter before cs k body ∧ c ≠ .remove k ∨ before = cs ∧ c = .set k body := by
  constructor
  · rintro ⟨after, hcs, hkept⟩
    rcases concat_eq_append_cons_iff.mp hcs with ⟨-, hbefore, hc⟩ | ⟨rest, rfl, hrest⟩
    · exact .inr ⟨hbefore.symm, hc⟩
    · rw [List.mem_append, List.mem_singleton, not_or] at hkept
      exact .inl ⟨⟨rest, hrest, hkept.1⟩, Ne.symm hkept.2⟩
  · rintro (⟨⟨after, rfl, hkept⟩, hc⟩ | ⟨rfl, rfl⟩)
    · refine ⟨after ++ [c], List.append_assoc .., ?_⟩
      rw [List.mem_append, List.mem_singleton, not_or]
      exact ⟨hkept, Ne.symm hc⟩
    · exact ⟨[], rfl, List.not_mem_nil⟩

/-- A set puts its key in, and a removal takes its key out. -/
theorem setSince_concat :
    SetSince k (cs ++ [c]) ↔ SetSince k cs ∧ c ≠ .remove k ∨ ∃ b, c = .set k b := by
  simp only [SetSince, setAfter_concat]
  constructor
  · rintro ⟨before, b, ⟨hset, hc⟩ | ⟨-, hc⟩⟩
    · exact .inl ⟨⟨before, b, hset⟩, hc⟩
    · exact .inr ⟨b, hc⟩
  · rintro (⟨⟨before, b, hset⟩, hc⟩ | ⟨b, hc⟩)
    · exact ⟨before, b, .inl ⟨hset, hc⟩⟩
    · exact ⟨cs, b, .inr ⟨rfl, hc⟩⟩

/-- A set of a key that was not set since is a first set, and a removal undoes the one of its
key. -/
theorem firstSet_concat :
    FirstSet (cs ++ [c]) k body i ↔
      FirstSet cs k body i ∧ c ≠ .remove k ∨
        c = .set k body ∧ i = cs.length ∧ ¬SetSince k cs := by
  simp only [FirstSet, setAfter_concat]
  constructor
  · rintro ⟨before, ⟨hset, hc⟩ | ⟨rfl, hc⟩, hplace, hfirst⟩
    · exact .inl ⟨⟨before, hset, hplace, hfirst⟩, hc⟩
    · exact .inr ⟨hc, hplace.symm, hfirst⟩
  · rintro (⟨⟨before, hset, hplace, hfirst⟩, hc⟩ | ⟨hc, hplace, hfirst⟩)
    · exact ⟨before, .inl ⟨hset, hc⟩, hplace, hfirst⟩
    · exact ⟨cs, .inr ⟨rfl, hc⟩, hplace.symm, hfirst⟩

theorem firstSet_concat_remove {j : String} :
    FirstSet (cs ++ [.remove j]) k body i ↔ FirstSet cs k body i ∧ k ≠ j := by
  rw [firstSet_concat]
  simp only [ne_eq, ScriptChange.remove.injEq, reduceCtorEq, false_and, or_false]
  exact and_congr_right' (not_congr eq_comm)

/-- A set of another key, or of one that was set since, is not a first set of a key. -/
theorem firstSet_concat_idle {j b : String} (hj : j = k → SetSince j cs) :
    FirstSet (cs ++ [.set j b]) k body i ↔ FirstSet cs k body i := by
  rw [firstSet_concat]
  refine ⟨fun h => h.elim And.left ?_, fun h => .inl ⟨h, ScriptChange.noConfusion⟩⟩
  rintro ⟨hset, -, hnot⟩
  obtain ⟨rfl, -⟩ := ScriptChange.set.inj hset
  exact absurd (hj rfl) hnot

/-- A set of a key that was not set since is its only first one. -/
theorem firstSet_concat_new {b : String} (hk : ¬SetSince k cs) :
    FirstSet (cs ++ [.set k b]) k body i ↔ body = b ∧ i = cs.length := by
  rw [firstSet_concat]
  constructor
  · rintro (⟨hfirst, -⟩ | ⟨hset, hplace, -⟩)
    · exact absurd hfirst.setSince hk
    · exact ⟨(ScriptChange.set.inj hset).2.symm, hplace⟩
  · rintro ⟨rfl, rfl⟩
    exact .inr ⟨rfl, rfl, hk⟩

/-- **A key that was set since it was last removed has a first such set.** -/
theorem setSince_iff_exists_firstSet :
    SetSince k cs ↔ ∃ body i, FirstSet cs k body i := by
  refine ⟨fun h => ?_, fun ⟨_, _, h⟩ => h.setSince⟩
  induction cs using List.reverseRecOn with
  | nil => exact absurd h not_setSince_nil
  | append_singleton cs c ih =>
    by_cases hold : SetSince k cs
    · obtain ⟨body, i, hfirst⟩ := ih hold
      refine ⟨body, i, firstSet_concat.mpr (.inl ⟨hfirst, ?_⟩)⟩
      rintro rfl
      -- a key that has just been removed was not set since
      rcases setSince_concat.mp h with ⟨-, hc⟩ | ⟨b, hc⟩
      · exact hc rfl
      · cases hc
    · rcases setSince_concat.mp h with ⟨hset, -⟩ | ⟨b, rfl⟩
      · exact absurd hset hold
      · exact ⟨b, cs.length, (firstSet_concat_new hold).mpr ⟨rfl, rfl⟩⟩

/-- Whatever comes after the first set of a key finds the key set. -/
theorem FirstSet.setSince_before {rest : List ScriptChange} {b : String}
    (h : FirstSet (before ++ .set k b :: rest) k body i) (hi : i < before.length) :
    SetSince k before := by
  obtain ⟨earlier, ⟨after, hcs, hkept⟩, rfl, -⟩ := h
  rcases List.append_eq_append_iff.mp hcs with ⟨more, rfl, -⟩ | ⟨more, rfl, hmore⟩
  · rw [List.length_append] at hi
    omega
  · cases more with
    | nil => exact absurd hi (by simp)
    | cons c more =>
      obtain ⟨rfl, rfl⟩ := List.cons.inj hmore
      exact ⟨earlier, body, more, rfl, fun h => hkept (List.mem_append_left _ h)⟩

end Changes

namespace ScriptRegistry
variable {r : ScriptRegistry} {cs : List ScriptChange} {k body : String}

/-- The registry after a change. -/
def change (r : ScriptRegistry) : ScriptChange → ScriptRegistry
  | .set key body => (offer r key body).1
  | .remove key => (takeOut r key).1

/-- The registry after changes, from an empty one. -/
def after (cs : List ScriptChange) : ScriptRegistry := cs.foldl change .empty

theorem after_concat (cs : List ScriptChange) (c : ScriptChange) :
    after (cs ++ [c]) = change (after cs) c := by
  rw [after, after, List.foldl_append, List.foldl_cons, List.foldl_nil]

theorem offer_of_contains (h : r.contains k = true) (body : String) :
    offer r k body = (r, false) :=
  if_pos h

theorem offer_of_not_contains (h : r.contains k = false) (body : String) :
    (offer r k body).2 = true ∧ (offer r k body).1.items = r.items ++ [(k, body)] := by
  rw [offer, h]
  exact ⟨rfl, Keyed.items_insertNew h⟩

theorem items_takeOut (r : ScriptRegistry) (k : String) :
    (takeOut r k).1.items = r.items.filter (fun x => x.1 ≠ k) :=
  List.filter_congr fun x _ => by rw [Bool.eq_iff_iff, bne_iff_ne, decide_eq_true_eq]

/-- **A registry holds the first sets of what was done**, in the order in which it was done. -/
structure Holds (r : ScriptRegistry) (cs : List ScriptChange) : Prop where
  /-- A body is pending under a key just in case it was first set under it. -/
  mem_iff : ∀ {k body : String}, (k, body) ∈ r.items ↔ ∃ i, FirstSet cs k body i
  /-- What stands before another was set before it. -/
  order : r.items.Pairwise fun x y =>
    ∀ i j, FirstSet cs x.1 x.2 i → FirstSet cs y.1 y.2 j → i < j

namespace Holds

theorem mem_keys_iff (h : r.Holds cs) : k ∈ r.keys ↔ SetSince k cs := by
  rw [setSince_iff_exists_firstSet]
  constructor
  · intro hk
    obtain ⟨⟨k, body⟩, hmem, rfl⟩ := List.mem_map.mp hk
    exact ⟨body, h.mem_iff.mp hmem⟩
  · rintro ⟨body, hfirst⟩
    exact List.mem_map_of_mem (f := Prod.fst) (h.mem_iff.mpr hfirst)

theorem contains_iff (h : r.Holds cs) : r.contains k = true ↔ SetSince k cs :=
  Keyed.contains_iff_mem_keys.trans h.mem_keys_iff

theorem contains_eq_false (h : r.Holds cs) (hk : ¬SetSince k cs) : r.contains k = false :=
  Bool.eq_false_iff.mpr (mt h.contains_iff.mp hk)

theorem empty : Holds .empty [] where
  mem_iff := by
    refine ⟨fun h => absurd h List.not_mem_nil, ?_⟩
    rintro ⟨i, hfirst⟩
    exact absurd hfirst.setSince not_setSince_nil
  order := .nil

/-- A set of a key that is pending changes neither the registry nor what it is to hold. -/
theorem set_again (h : r.Holds cs) (hk : SetSince k cs) (body : String) :
    r.Holds (cs ++ [.set k body]) where
  mem_iff := by
    simp only [firstSet_concat_idle fun _ => hk]
    exact h.mem_iff
  order := by
    simp only [firstSet_concat_idle fun _ => hk]
    exact h.order

/-- A set of a key that is not pending comes after all that is. -/
theorem set_new (h : r.Holds cs) (hk : ¬SetSince k cs) {r' : ScriptRegistry}
    (hitems : r'.items = r.items ++ [(k, body)]) : r'.Holds (cs ++ [.set k body]) := by
  have hold {x : String × String} (hx : x ∈ r.items) {b : String} {i : Nat} :
      FirstSet (cs ++ [.set k body]) x.1 b i ↔ FirstSet cs x.1 b i := by
    refine firstSet_concat_idle ?_
    rintro rfl
    exact h.mem_keys_iff.mp (List.mem_map_of_mem hx)
  constructor
  · intro j b
    rw [hitems, List.mem_append, List.mem_singleton, Prod.mk.injEq]
    by_cases hj : k = j
    · subst hj
      rw [h.mem_iff]
      simp only [firstSet_concat_new hk, true_and, exists_and_left, exists_eq, and_true]
      exact or_iff_right fun ⟨_, hfirst⟩ => hk hfirst.setSince
    · simp only [firstSet_concat_idle fun e => absurd e hj, ← h.mem_iff]
      exact or_iff_left fun hnew => hj hnew.1.symm
  · rw [hitems, List.pairwise_append]
    refine ⟨?_, List.pairwise_singleton .., ?_⟩
    · refine h.order.imp_of_mem fun hx hy hlt i j => ?_
      rw [hold hx, hold hy]
      exact hlt i j
    · intro x hx y hy i j
      rw [List.mem_singleton.mp hy, hold hx, firstSet_concat_new hk]
      rintro hfirst ⟨-, rfl⟩
      exact hfirst.lt_length

/-- A removal leaves the other keys, in their order. -/
theorem remove (h : r.Holds cs) (k : String) : (takeOut r k).1.Holds (cs ++ [.remove k]) := by
  constructor
  · intro j b
    simp only [items_takeOut, List.mem_filter, h.mem_iff, firstSet_concat_remove,
      exists_and_right, decide_eq_true_eq]
  · rw [items_takeOut]
    refine (h.order.filter _).imp fun hlt i j => ?_
    rw [firstSet_concat_remove, firstSet_concat_remove]
    exact fun hi hj => hlt i j hi.1 hj.1

/-- **One more change** keeps a registry to the first sets. -/
theorem change (h : r.Holds cs) (c : ScriptChange) : (r.change c).Holds (cs ++ [c]) := by
  cases c with
  | remove k => exact h.remove k
  | set k body =>
    by_cases hk : SetSince k cs
    · rw [ScriptRegistry.change, offer_of_contains (h.contains_iff.mpr hk)]
      exact h.set_again hk body
    · exact h.set_new hk (offer_of_not_contains (h.contains_eq_false hk) body).2

end Holds

/-- **After any changes to an empty registry** it holds their first sets. -/
theorem holds_after (cs : List ScriptChange) : (after cs).Holds cs := by
  induction cs using List.reverseRecOn with
  | nil => exact .empty
  | append_singleton cs c ih =>
    rw [after_concat]
    exact ih.change c

end ScriptRegistry

/-- An experiment's script is a set of its key. -/
theorem Host.queueScript_eq (h : Host) (p : ScriptPosition) (x body : String) :
    let offered := ScriptRegistry.offer h.scripts (p.key x) body
    h.queueScript p x body =
      ({ h with scripts := offered.1 }, if offered.2 then .applied else .ignored) := by
  simp only [queueScript, ScriptRegistry.offer]
  split <;> rfl

namespace ScriptRegistry

/-- What is pending after changes to an empty registry, and what is answered then. -/
structure Law (cs : List ScriptChange) : Prop where
  /-- No key is pending twice. -/
  distinct : (after cs).keys.Nodup
  /-- The pending keys are those that were set since they were last removed. -/
  present : ∀ k, k ∈ (after cs).keys ↔ SetSince k cs
  /-- The body of a key is that of its first set since then. -/
  body : ∀ k body, (after cs).get? k = some body ↔ ∃ i, FirstSet cs k body i
  /-- What is pending is listed in the order of those first sets. -/
  order : (after cs).items.Pairwise fun x y =>
    ∀ i j, FirstSet cs x.1 x.2 i → FirstSet cs y.1 y.2 j → i < j
  /-- The sets of a key after that first one were refused, and changed nothing. -/
  later : ∀ k body i, FirstSet cs k body i → ∀ before b rest, cs = before ++ .set k b :: rest →
    i < before.length → offer (after before) k b = (after before, false)
  /-- A set of a key that is pending is refused, and changes nothing. -/
  refused : ∀ k body, SetSince k cs → offer (after cs) k body = (after cs, false)
  /-- Any other set is taken, and comes last. -/
  taken : ∀ k body, ¬SetSince k cs → (offer (after cs) k body).2 = true ∧
    (offer (after cs) k body).1.items = (after cs).items ++ [(k, body)]
  /-- A removal answers the body that is pending, and leaves all else in its order. -/
  removed : ∀ k, (∀ body, (takeOut (after cs) k).2 = some body ↔ ∃ i, FirstSet cs k body i) ∧
    (takeOut (after cs) k).1.items = (after cs).items.filter fun x => x.1 ≠ k
  /-- A script of an experiment is a set of its key: it is ignored where the key is pending. -/
  queued : ∀ (h : Host) (p : ScriptPosition) (x body : String), h.scripts = after cs →
    (h.queueScript p x body).1 = { h with scripts := after (cs ++ [.set (p.key x) body]) } ∧
      ((h.queueScript p x body).2 = .ignored ↔ SetSince (p.key x) cs) ∧
      ((h.queueScript p x body).2 = .applied ↔ ¬SetSince (p.key x) cs)

/-- **The first write wins until it is removed.**  Whatever is set in and removed from a
registry that starts empty, it is an ordered map of the first sets that were not removed. -/
theorem first_write_law (cs : List ScriptChange) : Law cs where
  distinct := (after cs).distinct
  present k := (holds_after cs).mem_keys_iff
  body k body := Dictionary.get?_eq_some_iff.trans (holds_after cs).mem_iff
  order := (holds_after cs).order
  later := by
    rintro k body i hfirst before b rest rfl hi
    have hpending := (holds_after before).contains_iff.mpr (hfirst.setSince_before hi)
    exact offer_of_contains hpending b
  refused k body hk := offer_of_contains ((holds_after cs).contains_iff.mpr hk) body
  taken k body hk := offer_of_not_contains ((holds_after cs).contains_eq_false hk) body
  removed k := ⟨fun body => Dictionary.get?_eq_some_iff.trans (holds_after cs).mem_iff,
    items_takeOut (after cs) k⟩
  queued := by
    intro h p x body hscripts
    rw [Host.queueScript_eq, hscripts, after_concat]
    refine ⟨rfl, ?_⟩
    by_cases hk : SetSince (p.key x) cs
    · rw [offer_of_contains ((holds_after cs).contains_iff.mpr hk)]
      simp [hk]
    · rw [(offer_of_not_contains ((holds_after cs).contains_eq_false hk) body).1]
      simp [hk]

/-- A key that is set again after it was removed comes behind one that stayed. -/
example :
    (after [.set "a" "1", .set "b" "2", .set "a" "3", .remove "a", .set "a" "4",
      .set "b" "5"]).items = [("b", "2"), ("a", "4")] := by
  decide

end ScriptRegistry

end SplitTest

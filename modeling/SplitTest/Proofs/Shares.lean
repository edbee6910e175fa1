import Mathlib.Data.Nat.Periodic
import Mathlib.Order.Interval.Finset.Nat
import SplitTest.Proofs.Selection

/-!
# Shares

The items of a list cut the line into shares.  The share of the item at place `i` starts
behind the weights of the items before it (`startOf`) and is as long as its weight, and a
point selects the place whose share covers it (`place?_eq_some_iff`).  Draws count a share
without its start and with its end, buckets the other way round, so the draw `n + 1` and
the bucket `n` select the same place (`place?_uniform_succ`).

How many of a hundred points select a place is then the length of its share, as far as it
lies among the first hundred points.  The offsets of a device count the same, since
turning the circle of a hundred buckets moves every bucket to one place
(`card_rotate`).
-/

namespace SplitTest.Selector

/-- The place of the item that a point falls on, among items of the given weights. -/
def place? (s : Selector) (weights : List Nat) : Option Nat :=
  (s.select Prod.fst weights.zipIdx).map Prod.snd

/-- Where the share of the item at a place starts. -/
def startOf (weights : List Nat) (i : Nat) : Nat := (weights.take i).sum

/-! ## The share that covers a point -/

section
variable {α : Type} {s : Selector} {weight : α → Nat}

/-- What is selected stands at a place whose share covers the point. -/
theorem select_eq_some_iff_exists_place {xs : List α} {x : α} :
    s.select weight xs = some x ↔ ∃ i, xs[i]? = some x ∧
      s.hits (startOf (xs.map weight) i) (startOf (xs.map weight) i + weight x) = true := by
  rw [← List.filter_true xs, select_filter_eq_some_iff]
  simp only [List.filter_true, true_and]
  constructor
  · rintro ⟨before, after, rfl, hit⟩
    refine ⟨before.length, by simp, ?_⟩
    simpa [startOf] using hit
  · rintro ⟨i, hi, hit⟩
    obtain ⟨hlt, rfl⟩ := List.getElem?_eq_some_iff.mp hi
    refine ⟨xs.take i, xs.drop (i + 1), ?_, ?_⟩
    · rw [List.cons_getElem_drop_succ, List.take_append_drop]
    · simpa [startOf] using hit

/-- **A point selects the place whose share covers it.** -/
theorem place?_eq_some_iff {weights : List Nat} {i : Nat} :
    s.place? weights = some i ↔ ∃ w, weights[i]? = some w ∧
      s.hits (startOf weights i) (startOf weights i + w) = true := by
  have hweights : weights.zipIdx.map Prod.fst = weights := List.zipIdx_map_fst 0 weights
  rw [place?, Option.map_eq_some_iff]
  constructor
  · rintro ⟨⟨w, j⟩, hselect, rfl⟩
    obtain ⟨i, hi, hit⟩ := select_eq_some_iff_exists_place.mp hselect
    rw [hweights] at hit
    obtain ⟨w', hw', he⟩ : ∃ w', weights[i]? = some w' ∧ (w', i) = (w, j) := by
      simpa [List.getElem?_zipIdx, Option.map_eq_some_iff] using hi
    obtain ⟨rfl, rfl⟩ := Prod.mk.inj he
    exact ⟨w', hw', hit⟩
  · rintro ⟨w, hw, hit⟩
    refine ⟨(w, i), select_eq_some_iff_exists_place.mpr ⟨i, ?_, ?_⟩, rfl⟩
    · simp [List.getElem?_zipIdx, hw]
    · rw [hweights]
      exact hit

/-- The item selected is the one at the place selected among the weights. -/
theorem select_eq_place?_bind {xs : List α} :
    s.select weight xs = (s.place? (xs.map weight)).bind fun i => xs[i]? := by
  refine Option.ext fun x => ?_
  rw [select_eq_some_iff_exists_place, Option.bind_eq_some_iff]
  constructor
  · rintro ⟨i, hi, hit⟩
    exact ⟨i, place?_eq_some_iff.mpr ⟨weight x, by simp [hi], hit⟩, hi⟩
  · rintro ⟨i, hplace, hi⟩
    obtain ⟨w, hw, hit⟩ := place?_eq_some_iff.mp hplace
    obtain rfl : weight x = w := by simpa [hi] using hw
    exact ⟨i, hi, hit⟩

end

section
variable {weights : List Nat} {i : Nat}

theorem place?_uniform_eq_some_iff {n : Nat} :
    (uniform n).place? weights = some i ↔ ∃ w, weights[i]? = some w ∧
      startOf weights i < n ∧ n ≤ startOf weights i + w := by
  simp only [place?_eq_some_iff, hits_uniform_iff]

theorem place?_stable_eq_some_iff {n : Nat} :
    (stable n).place? weights = some i ↔ ∃ w, weights[i]? = some w ∧
      startOf weights i ≤ n ∧ n < startOf weights i + w := by
  simp only [place?_eq_some_iff, hits_stable_iff]

/-- The draw `n + 1` and the bucket `n` select the same place. -/
theorem place?_uniform_succ {n : Nat} :
    (uniform (n + 1)).place? weights = (stable n).place? weights := by
  refine Option.ext fun i => ?_
  rw [place?_uniform_eq_some_iff, place?_stable_eq_some_iff]
  simp only [Nat.lt_succ_iff, Nat.succ_le_iff]

/-- An item without weight is never selected. -/
theorem pos_of_place?_eq_some {s : Selector} (h : s.place? weights = some i) :
    ∃ w, weights[i]? = some w ∧ 0 < w := by
  obtain ⟨w, hw, hit⟩ := place?_eq_some_iff.mp h
  refine ⟨w, hw, ?_⟩
  cases s with
  | uniform n => rw [hits_uniform_iff] at hit; omega
  | stable n => rw [hits_stable_iff] at hit; omega

/-- A share ends where the next one starts. -/
theorem startOf_succ {w : Nat} (hw : weights[i]? = some w) :
    startOf weights (i + 1) = startOf weights i + w := by
  obtain ⟨hlt, rfl⟩ := List.getElem?_eq_some_iff.mp hw
  rw [startOf, List.take_succ_eq_append_getElem hlt, List.sum_append, List.sum_singleton, startOf]

/-- A share ends within the total. -/
theorem startOf_add_le_sum {w : Nat} (hw : weights[i]? = some w) :
    startOf weights i + w ≤ weights.sum := by
  rw [← startOf_succ hw, startOf]
  calc (weights.take (i + 1)).sum
      ≤ (weights.take (i + 1)).sum + (weights.drop (i + 1)).sum := Nat.le_add_right _ _
    _ = weights.sum := by rw [← List.sum_append, List.take_append_drop]

/-- **Every bucket below the total lies in a share.** -/
theorem exists_share_of_lt_sum {n : Nat} :
    ∀ {weights : List Nat}, n < weights.sum → ∃ i w, weights[i]? = some w ∧
      startOf weights i ≤ n ∧ n < startOf weights i + w := by
  intro weights
  -- from the front: the bucket lies in the first share, or in one of the rest
  induction weights generalizing n with
  | nil => intro h; simp at h
  | cons w ws ih =>
    intro h
    rw [List.sum_cons] at h
    by_cases hn : n < w
    · exact ⟨0, w, rfl, by simp [startOf], by simpa [startOf] using hn⟩
    · obtain ⟨i, w', hw', hle, hlt⟩ := ih (n := n - w) (by omega)
      have hstart : startOf (w :: ws) (i + 1) = w + startOf ws i := by simp [startOf]
      exact ⟨i + 1, w', hw', by omega, by omega⟩

/-- A bucket selects nothing exactly from the total on. -/
theorem place?_stable_eq_none_iff {n : Nat} :
    (stable n).place? weights = none ↔ weights.sum ≤ n := by
  constructor
  · intro hnone
    by_contra hlt
    obtain ⟨i, w, hshare⟩ := exists_share_of_lt_sum (Nat.lt_of_not_le hlt)
    rw [place?_stable_eq_some_iff.mpr ⟨w, hshare⟩] at hnone
    cases hnone
  · intro hle
    rw [Option.eq_none_iff_forall_ne_some]
    intro i hi
    obtain ⟨w, hw, -, hlt⟩ := place?_stable_eq_some_iff.mp hi
    have hend := startOf_add_le_sum hw
    omega

/-- A draw selects nothing exactly at zero and above the total. -/
theorem place?_uniform_eq_none_iff {n : Nat} :
    (uniform n).place? weights = none ↔ n = 0 ∨ weights.sum < n := by
  cases n with
  | zero =>
    refine iff_of_true (Option.eq_none_iff_forall_ne_some.mpr fun i hi => ?_) (Or.inl rfl)
    obtain ⟨w, -, hlt, -⟩ := place?_uniform_eq_some_iff.mp hi
    exact Nat.not_lt_zero _ hlt
  | succ n =>
    rw [place?_uniform_succ, place?_stable_eq_none_iff]
    omega

end

/-! ## Counting the points of a share -/

section
variable {weights : List Nat} {i w : Nat}

/-- The buckets below `m` that select a place. -/
theorem card_stable (hw : weights[i]? = some w) (m : Nat) :
    ((Finset.range m).filter fun n => (stable n).place? weights = some i).card =
      min m (startOf weights i + w) - min m (startOf weights i) := by
  have hshare : ((Finset.range m).filter fun n => (stable n).place? weights = some i) =
      Finset.Ico (min m (startOf weights i)) (min m (startOf weights i + w)) := by
    ext n
    simp only [Finset.mem_filter, Finset.mem_range, Finset.mem_Ico, place?_stable_eq_some_iff, hw,
      Option.some.injEq, exists_eq_left']
    omega
  rw [hshare, Nat.card_Ico]

/-- The buckets below `m` that select nothing. -/
theorem card_stable_none (weights : List Nat) (m : Nat) :
    ((Finset.range m).filter fun n => (stable n).place? weights = none).card =
      m - min m weights.sum := by
  have hrest : ((Finset.range m).filter fun n => (stable n).place? weights = none) =
      Finset.Ico (min m weights.sum) m := by
    ext n
    simp only [Finset.mem_filter, Finset.mem_range, Finset.mem_Ico, place?_stable_eq_none_iff]
    omega
  rw [hrest, Nat.card_Ico]

/-- Among the draws from one to `m` as many select a place as among the buckets below
`m`. -/
theorem card_uniform (m : Nat) (place : Option Nat) :
    ((Finset.Icc 1 m).filter fun n => (uniform n).place? weights = place).card =
      ((Finset.range m).filter fun n => (stable n).place? weights = place).card := by
  refine Finset.card_nbij' (· - 1) (· + 1) ?_ ?_ ?_ ?_
  · intro n hn
    simp only [Finset.coe_filter, Finset.mem_Icc, Set.mem_ofPred_eq, Finset.mem_range] at hn ⊢
    obtain ⟨⟨hpos, hle⟩, hplace⟩ := hn
    refine ⟨by omega, ?_⟩
    rw [← place?_uniform_succ, Nat.sub_add_cancel hpos]
    exact hplace
  · intro n hn
    simp only [Finset.coe_filter, Finset.mem_Icc, Set.mem_ofPred_eq, Finset.mem_range] at hn ⊢
    exact ⟨by omega, place?_uniform_succ.trans hn.2⟩
  · intro n hn
    simp only [Finset.coe_filter, Finset.mem_Icc, Set.mem_ofPred_eq] at hn
    exact Nat.sub_add_cancel hn.1.1
  · intro n _
    exact Nat.add_sub_cancel n 1

/-- **Turning a circle of `m` points keeps how many of them have a property.** -/
theorem card_rotate (p : Nat → Prop) [DecidablePred p] (base m : Nat) :
    ((Finset.range m).filter fun offset => p ((base + offset) % m)).card =
      ((Finset.range m).filter p).card := by
  have hperiodic : Function.Periodic (fun n => p (n % m)) m := fun n => by
    show p ((n + m) % m) = p (n % m)
    rw [Nat.add_mod_right]
  calc ((Finset.range m).filter fun offset => p ((base + offset) % m)).card
      = ((Finset.Ico base (base + m)).filter fun n => p (n % m)).card := by
        refine Finset.card_nbij' (base + ·) (· - base) ?_ ?_ ?_ ?_
        · intro offset h
          simp only [Finset.coe_filter, Finset.mem_range, Finset.mem_Ico, Set.mem_ofPred_eq] at h ⊢
          exact ⟨by omega, h.2⟩
        · intro n h
          simp only [Finset.coe_filter, Finset.mem_range, Finset.mem_Ico, Set.mem_ofPred_eq] at h ⊢
          refine ⟨by omega, ?_⟩
          rw [Nat.add_sub_cancel' h.1.1]
          exact h.2
        · intro offset _
          exact Nat.add_sub_cancel_left base offset
        · intro n h
          simp only [Finset.coe_filter, Finset.mem_Ico, Set.mem_ofPred_eq] at h
          exact Nat.add_sub_cancel' h.1.1
    _ = m.count fun n => p (n % m) := Nat.filter_Ico_card_eq_of_periodic base m _ hperiodic
    _ = ((Finset.range m).filter fun n => p (n % m)).card := Nat.count_eq_card_filter_range _ m
    _ = ((Finset.range m).filter p).card := by
        refine congrArg Finset.card (Finset.filter_congr fun n hn => ?_)
        rw [Nat.mod_eq_of_lt (Finset.mem_range.mp hn)]

end

/-! ## The law of shares -/

/-- **The law of shares**, of items with the given weights. -/
structure ShareLaw (weights : List Nat) : Prop where
  /-- Whatever the items are, the one selected is the one at the place selected. -/
  items : ∀ {α : Type} (weight : α → Nat) (xs : List α) (s : Selector), xs.map weight = weights →
    s.select weight xs = (s.place? weights).bind fun i => xs[i]?
  /-- A draw selects the place whose share it lies in, the start not included. -/
  draws : ∀ n i, (uniform n).place? weights = some i ↔ ∃ w, weights[i]? = some w ∧
    startOf weights i < n ∧ n ≤ startOf weights i + w
  /-- A bucket selects the place whose share it lies in, the end not included. -/
  buckets : ∀ n i, (stable n).place? weights = some i ↔ ∃ w, weights[i]? = some w ∧
    startOf weights i ≤ n ∧ n < startOf weights i + w
  /-- No two shares have a point in common. -/
  disjoint : ∀ (s : Selector) (i j v w : Nat), weights[i]? = some v → weights[j]? = some w →
    s.hits (startOf weights i) (startOf weights i + v) = true →
      s.hits (startOf weights j) (startOf weights j + w) = true → i = j
  /-- A draw selects nothing exactly at zero and above the total. -/
  draws_none : ∀ n, (uniform n).place? weights = none ↔ n = 0 ∨ weights.sum < n
  /-- A bucket selects nothing exactly from the total on. -/
  buckets_none : ∀ n, (stable n).place? weights = none ↔ weights.sum ≤ n
  /-- Draws and buckets agree, shifted by one. -/
  shifted : ∀ n, (uniform (n + 1)).place? weights = (stable n).place? weights
  /-- An item without weight is never selected. -/
  weightless : ∀ (s : Selector) (i : Nat), weights[i]? = some 0 → s.place? weights ≠ some i
  /-- How many of a hundred draws, of a hundred buckets, and of the hundred offsets of a
  device select a place: the part of its share that lies among the first hundred points. -/
  shares : ∀ i w, weights[i]? = some w →
    let share := min 100 (startOf weights i + w) - min 100 (startOf weights i)
    ((Finset.Icc 1 100).filter fun n =>
        (uniform n).place? weights = some i).card = share ∧
      ((Finset.range 100).filter fun n =>
        (stable n).place? weights = some i).card = share ∧
      ∀ f : Device.Fingerprint, ((Finset.range 100).filter fun offset =>
        (ofDevice f offset).place? weights = some i).card = share
  /-- The rest of them select nothing. -/
  rest : let rest := 100 - min 100 weights.sum
    ((Finset.Icc 1 100).filter fun n =>
        (uniform n).place? weights = none).card = rest ∧
      ((Finset.range 100).filter fun n =>
        (stable n).place? weights = none).card = rest ∧
      ∀ f : Device.Fingerprint, ((Finset.range 100).filter fun offset =>
        (ofDevice f offset).place? weights = none).card = rest

/-- The offsets of a device select a place as often as the buckets do. -/
theorem card_ofDevice (f : Device.Fingerprint) (weights : List Nat) (place : Option Nat) :
    ((Finset.range 100).filter fun offset => (ofDevice f offset).place? weights = place).card =
      ((Finset.range 100).filter fun n => (stable n).place? weights = place).card :=
  card_rotate (fun n => (stable n).place? weights = place) f.baseBucket 100

/-- **Selection cuts the line into exact shares**, whatever the weights. -/
theorem share_law (weights : List Nat) : ShareLaw weights where
  items := by
    rintro α weight xs s rfl
    exact select_eq_place?_bind
  draws := fun _ _ => place?_uniform_eq_some_iff
  buckets := fun _ _ => place?_stable_eq_some_iff
  disjoint := by
    intro s i j v w hi hj hiti hitj
    have hplacei := place?_eq_some_iff.mpr ⟨v, hi, hiti⟩
    have hplacej := place?_eq_some_iff.mpr ⟨w, hj, hitj⟩
    exact Option.some.inj (hplacei.symm.trans hplacej)
  draws_none := fun _ => place?_uniform_eq_none_iff
  buckets_none := fun _ => place?_stable_eq_none_iff
  shifted := fun _ => place?_uniform_succ
  weightless := by
    intro s i hi hplace
    obtain ⟨w, hw, hpos⟩ := pos_of_place?_eq_some hplace
    rw [hi] at hw
    cases hw
    exact Nat.lt_irrefl 0 hpos
  shares := by
    intro i w hw
    have hbuckets := card_stable hw 100
    refine ⟨?_, hbuckets, fun f => ?_⟩
    · rw [card_uniform]
      exact hbuckets
    · rw [card_ofDevice]
      exact hbuckets
  rest := by
    have hbuckets := card_stable_none weights 100
    refine ⟨?_, hbuckets, fun f => ?_⟩
    · rw [card_uniform]
      exact hbuckets
    · rw [card_ofDevice]
      exact hbuckets

/-- Weights above a hundred in all: the last item keeps what the first ones leave. -/
example : [1, 30, 31, 100].map (fun n => (uniform n).place? [30, 0, 200]) =
    [some 0, some 0, some 2, some 2] := by
  decide

end SplitTest.Selector

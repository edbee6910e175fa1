import SplitTest.Report.Distribution
import SplitTest.Proofs.Keyed
import SplitTest.Proofs.Shares

/-!
# What a simulation counts

A simulation counts its draws one by one.  No draw is lost and none is counted twice, since
counting one adds one to the total (`Distribution.total_tally`), whatever its winner is.  Nor is
a draw counted for anyone else: a winner is a condset of the experiment, so that no key comes
up on the way (`Distribution.Tallies.tally`).

The condition that wins a draw is the one whose share covers it
(`Distribution.winner?_eq_some_iff`), so the counts can be read off the draws alone
(`Distribution.Accounts`), and the draws of an experiment are the block that comes next
(`simulation_law`).
-/

namespace SplitTest

/-- The draws of the experiment at a place, where every experiment draws so often. -/
def Draws.block (d : Draws) (count i : Nat) : List Nat :=
  (List.range count).map fun k => d.values (d.rolls + i * count + k)

namespace Report.Distribution

/-- The draws that were counted. -/
def total (dist : Distribution) : Nat := (dist.counts.items.map Prod.snd).sum + dist.none

/-- **What a distribution says of a block of draws** of an experiment. -/
structure Accounts (e : Entry) (block : List Nat) (dist : Distribution) : Prop where
  experiment : dist.experiment = e.shortname
  scope : dist.scope = e.scope
  draws : dist.draws = block.length
  /-- There is a count for each condset of the experiment, in stored order, and no other. -/
  condsets : dist.counts.keys = e.conditions.keys
  /-- The count of a condition is how many draws lie in its share, which begins behind the
  weights of all the conditions before it. -/
  won : ∀ before c after, e.conditions.items = before ++ c :: after →
    let start := (before.map Condition.weight).sum
    dist.counts.get? c.condset = some (block.countP fun n => start < n ∧ n ≤ start + c.weight)
  /-- The draws above the total weight are won by nothing. -/
  lost : dist.none = block.countP fun n => (e.conditions.items.map Condition.weight).sum < n
  /-- Every draw is counted once. -/
  conserved : dist.total = dist.draws

/-! ## Winners -/

section
variable {e : Entry} {n : Nat}

theorem winner?_eq_place? : winner? e n =
    (((Selector.uniform n).place? (e.conditions.items.map Condition.weight)).bind fun i =>
      e.conditions.items[i]?).map Condition.condset := by
  rw [winner?, Selector.select_eq_place?_bind]

/-- **The winner of a draw is the condition whose share covers it.** -/
theorem winner?_eq_some_iff {before after : List Condition} {c : Condition}
    (h : e.conditions.items = before ++ c :: after) :
    winner? e n = some c.condset ↔
      (before.map Condition.weight).sum < n ∧
        n ≤ (before.map Condition.weight).sum + c.weight := by
  have hc : e.conditions.items[before.length]? = some c := by
    rw [h, List.getElem?_append_right (Nat.le_refl _), Nat.sub_self, List.getElem?_cons_zero]
  have hplace : winner? e n = some c.condset ↔
      (Selector.uniform n).place? (e.conditions.items.map Condition.weight) =
        some before.length := by
    rw [winner?_eq_place?]
    constructor
    · intro hwinner
      obtain ⟨c', hselect, hcondset⟩ := Option.map_eq_some_iff.mp hwinner
      obtain ⟨i, hi, hc'⟩ := Option.bind_eq_some_iff.mp hselect
      -- a condset stands at one place only
      have hsame : e.conditions.keys[i]? = e.conditions.keys[before.length]? := by
        rw [Keyed.keys, List.getElem?_map, List.getElem?_map, hc', hc, Option.map_some,
          Option.map_some, hcondset]
      have hlt : i < e.conditions.keys.length := by
        rw [Keyed.keys, List.length_map]
        exact (List.getElem?_eq_some_iff.mp hc').1
      rw [hi, (List.getElem?_inj hlt e.conditions.distinct).mp hsame]
    · intro hi
      rw [hi, Option.bind_some, hc, Option.map_some]
  have hstart : Selector.startOf (e.conditions.items.map Condition.weight) before.length =
      (before.map Condition.weight).sum := by
    rw [Selector.startOf, ← List.map_take, h, List.take_left' rfl]
  rw [hplace, Selector.place?_uniform_eq_some_iff, List.getElem?_map, hc, hstart]
  simp only [Option.map_some, Option.some.injEq, exists_eq_left']

/-- A draw that nothing wins is zero or above the total weight. -/
theorem winner?_eq_none_iff :
    winner? e n = Option.none ↔ n = 0 ∨ (e.conditions.items.map Condition.weight).sum < n := by
  rw [← Selector.place?_uniform_eq_none_iff, winner?_eq_place?, Option.map_eq_none_iff]
  cases hplace : (Selector.uniform n).place? (e.conditions.items.map Condition.weight) with
  | none => exact iff_of_true rfl rfl
  | some i =>
    obtain ⟨w, hw, -⟩ := Selector.place?_eq_some_iff.mp hplace
    rw [List.getElem?_map, Option.map_eq_some_iff] at hw
    obtain ⟨c, hc, -⟩ := hw
    rw [Option.bind_some, hc]
    exact iff_of_false (Option.some_ne_none c) (Option.some_ne_none i)

theorem mem_keys_of_winner? {condset : String} (h : winner? e n = some condset) :
    condset ∈ e.conditions.keys := by
  obtain ⟨c, hselect, rfl⟩ := Option.map_eq_some_iff.mp h
  exact List.mem_map_of_mem (Selector.mem_of_select _ _ hselect)

end

/-! ## One draw -/

/-- Writing a number under a key moves the sum from the old one to the new one. -/
theorem sum_set (counts : Dictionary Nat) (k : String) (n : Nat) :
    ((counts.set k n).items.map Prod.snd).sum + (counts.get? k).getD 0 =
      (counts.items.map Prod.snd).sum + n := by
  show ((upsert Prod.fst (k, n) counts.items).map Prod.snd).sum +
    ((counts.items.find? fun x => x.1 == k).map Prod.snd).getD 0 = _
  induction counts.items with
  | nil => exact Nat.add_comm n 0
  | cons x xs ih =>
    rw [upsert, List.find?_cons]
    by_cases hx : x.1 = k
    · rw [if_pos hx, beq_iff_eq.mpr hx]
      simp only [List.map_cons, List.sum_cons, Option.map_some, Option.getD_some]
      omega
    · rw [if_neg hx, beq_eq_false_iff_ne.mpr hx]
      simp only [List.map_cons, List.sum_cons]
      omega

/-- **Counting a draw adds one to the total**, whoever won it. -/
theorem total_tally (dist : Distribution) (winner : Option String) :
    (dist.tally winner).total = dist.total + 1 := by
  cases winner with
  | none => exact (Nat.add_assoc _ _ _).symm
  | some condset =>
    have hsum := sum_set dist.counts condset ((dist.counts.get? condset).getD 0 + 1)
    show ((dist.counts.set condset _).items.map Prod.snd).sum + dist.none = _
    rw [total]
    omega

/-- A distribution has counted a block of draws by their winners. -/
structure Tallies (e : Entry) (block : List Nat) (dist : Distribution) : Prop where
  experiment : dist.experiment = e.shortname
  scope : dist.scope = e.scope
  condsets : dist.counts.keys = e.conditions.keys
  won : ∀ condset ∈ e.conditions.keys,
    dist.counts.get? condset = some (block.countP fun n => winner? e n = some condset)
  lost : dist.none = block.countP fun n => winner? e n = Option.none
  conserved : dist.total = block.length

namespace Tallies
variable {e : Entry} {block : List Nat} {dist : Distribution}

theorem start (e : Entry) (count : Nat) : Tallies e [] (.start e count) := by
  have hitems : (Distribution.start e count).counts.items =
      e.conditions.items.map fun c => (c.condset, 0) := by
    refine Keyed.items_ofList ?_
    rw [List.map_map]
    exact e.conditions.distinct
  refine ⟨rfl, rfl, ?_, ?_, rfl, ?_⟩
  · rw [Keyed.keys, hitems, List.map_map]
    rfl
  · intro condset hcondset
    obtain ⟨c, hc, rfl⟩ := List.mem_map.mp hcondset
    rw [Dictionary.get?_eq_some_iff, hitems]
    exact List.mem_map_of_mem (f := fun c : Condition => (c.condset, 0)) hc
  · rw [total, hitems, List.map_map, List.sum_eq_zero fun x hx => ?_]
    · rfl
    · obtain ⟨c, -, rfl⟩ := List.mem_map.mp hx
      rfl

/-- **One more draw counted.** -/
theorem tally (h : Tallies e block dist) (n : Nat) :
    Tallies e (block ++ [n]) (dist.tally (winner? e n)) := by
  have hconserved : (dist.tally (winner? e n)).total = (block ++ [n]).length := by
    rw [total_tally, h.conserved, List.length_append, List.length_singleton]
  cases hwinner : winner? e n with
  | none =>
    rw [hwinner] at hconserved
    refine ⟨h.experiment, h.scope, h.condsets, fun condset hcondset => ?_, ?_, hconserved⟩
    · show dist.counts.get? condset = _
      rw [h.won condset hcondset, List.countP_append, List.countP_singleton, hwinner]
      rfl
    · show dist.none + 1 = _
      rw [h.lost, List.countP_append, List.countP_singleton, hwinner]
      rfl
  | some winner =>
    rw [hwinner] at hconserved
    have hwon := h.won winner (mem_keys_of_winner? hwinner)
    refine ⟨h.experiment, h.scope, ?_, fun condset hcondset => ?_, ?_, hconserved⟩
    · -- the key of the winner is there already
      have htaken : (dist.counts.get? winner).isSome = true := by rw [hwon, Option.isSome_some]
      exact (Dictionary.keys_set htaken _).trans h.condsets
    · show (dist.counts.set winner _).get? condset = _
      rw [List.countP_append, List.countP_singleton, hwinner]
      by_cases hsame : condset = winner
      · rw [hsame, Dictionary.get?_set_self, hwon]
        simp
      · rw [Dictionary.get?_set_of_ne hsame, h.won condset hcondset]
        simp [Ne.symm hsame]
    · show dist.none = _
      rw [h.lost, List.countP_append, List.countP_singleton, hwinner]
      rfl

/-- **A whole block counted**, draw by draw. -/
theorem roll (n : Nat) : ∀ {block : List Nat} {dist : Distribution} {d : Draws},
    Tallies e block dist → Tallies e (block ++ d.take n) (roll e n dist d).1 := by
  induction n with
  | zero =>
    intro block dist d h
    rw [show d.take 0 = [] from rfl, List.append_nil]
    exact h
  | succ n ih =>
    intro block dist d h
    rw [Draws.take_succ, ← List.singleton_append, ← List.append_assoc]
    exact ih (h.tally d.next)

end Tallies

/-! ## All draws -/

/-- As many draws are made as are asked for. -/
theorem draws_roll (e : Entry) (n : Nat) : ∀ (dist : Distribution) (d : Draws),
    (roll e n dist d).1.draws = dist.draws ∧
      (roll e n dist d).2 = { d with rolls := d.rolls + n } := by
  induction n with
  | zero => exact fun dist d => ⟨rfl, rfl⟩
  | succ n ih =>
    intro dist d
    obtain ⟨hdraws, hleft⟩ := ih (dist.tally (winner? e d.next)) d.advance
    refine ⟨hdraws.trans ?_, hleft.trans ?_⟩
    · cases winner? e d.next <;> rfl
    · rw [Draws.advance, Nat.add_assoc, Nat.add_comm 1 n]

/-- What an experiment draws is accounted for. -/
theorem accounts_roll (e : Entry) (count : Nat) {d : Draws} (hd : ∀ k, 0 < d.values k) :
    Accounts e (d.take count) (roll e count (.start e count) d).1 := by
  have htallies : Tallies e (d.take count) (roll e count (.start e count) d).1 :=
    (Tallies.start e count).roll count
  have hdraws : (roll e count (.start e count) d).1.draws = (d.take count).length := by
    rw [(draws_roll e count _ d).1, Draws.length_take]
    rfl
  refine ⟨htallies.experiment, htallies.scope, hdraws, htallies.condsets, ?_, ?_, ?_⟩
  · intro before c after hc
    have hmem : c.condset ∈ e.conditions.keys := by
      rw [Keyed.keys, hc]
      exact List.mem_map_of_mem (List.mem_append_right before List.mem_cons_self)
    rw [htallies.won c.condset hmem]
    refine congrArg some (List.countP_congr fun n _ => ?_)
    rw [decide_eq_true_eq, decide_eq_true_eq]
    exact winner?_eq_some_iff hc
  · rw [htallies.lost]
    refine List.countP_congr fun n hn => ?_
    have hpos : n ≠ 0 := by
      obtain ⟨k, -, rfl⟩ := List.mem_map.mp hn
      exact Nat.ne_of_gt (hd _)
    rw [decide_eq_true_eq, decide_eq_true_eq, winner?_eq_none_iff]
    exact or_iff_right hpos
  · rw [htallies.conserved, hdraws]

end Report.Distribution

namespace Report

theorem distributions_cons (count : Nat) (e : Entry) (es : List Entry) (d : Draws) :
    distributions count (e :: es) d =
      (Distribution.roll e count (.start e count) d).1 ::
        distributions count es (Distribution.roll e count (.start e count) d).2 :=
  rfl

/-- Entries that draw one after the other draw one block after the other. -/
theorem accounts_distributions {d : Draws} (hd : ∀ k, 0 < d.values k) (count : Nat)
    (es : List Entry) : ∀ i, List.Forall₂
      (fun x dist => Distribution.Accounts x.1 (d.block count x.2) dist) (es.zipIdx i)
      (distributions count es { d with rolls := d.rolls + i * count }) := by
  induction es with
  | nil => exact fun i => .nil
  | cons e es ih =>
    intro i
    have hleft : (Distribution.roll e count (.start e count)
        { d with rolls := d.rolls + i * count }).2 =
          { d with rolls := d.rolls + (i + 1) * count } := by
      rw [(Distribution.draws_roll e count _ _).2, Nat.add_assoc, Nat.succ_mul]
    have hblock : Distribution.Accounts e (d.block count i) (Distribution.roll e count
        (.start e count) { d with rolls := d.rolls + i * count }).1 :=
      Distribution.accounts_roll (d := { d with rolls := d.rolls + i * count }) e count hd
    rw [List.zipIdx_cons, distributions_cons, hleft]
    exact .cons hblock (ih (i + 1))

/-- **A simulation accounts for every draw.**  There is one distribution for each enabled
experiment outside the device scope, in stored order, and each accounts for the block of draws
at its place, whatever the weights are and however often is drawn. -/
theorem simulation_law (set : Dataset) (count : Nat) (d : Draws) (hd : ∀ k, 0 < d.values k) :
    List.Forall₂ (fun x dist => Distribution.Accounts x.1 (d.block count x.2) dist)
      (set.items.filter fun e => e.enabled && e.scope != .device).zipIdx
      (simulate set count d) := by
  have hdrawing : (set.active.filter fun e => e.scope != .device) =
      set.items.filter fun e => e.enabled && e.scope != .device := by
    rw [Dataset.active, List.filter_filter]
    exact List.filter_congr fun e _ => Bool.and_comm _ _
  have hfirst := accounts_distributions hd count (set.active.filter fun e => e.scope != .device) 0
  rw [Nat.zero_mul, Nat.add_zero] at hfirst
  rw [← hdrawing]
  exact hfirst

/-- An enabled experiment that has a condition for each weight. -/
def entryOfWeights (shortname : String) (scope : Scope) (weights : List (String × Nat)) : Entry :=
  .ofList ⟨⟨1⟩, shortname, shortname, scope, true, false, 0⟩
    (weights.map fun w => ⟨⟨1⟩, ⟨1⟩, w.1, .parse "", ⟨[]⟩, w.2, .empty⟩)

/-- Seven draws each of a theme, half of whose draws are won by nothing, and of a menu that
takes more than a hundred.  The draws 80, 90, 100, 10, ... of the menu go on where those of the
theme stopped, and the device experiment between them draws nothing. -/
theorem theme_and_menu_simulated :
    let set : Dataset := .ofList
      [entryOfWeights "theme" .request [("classic", 30), ("boost", 20)],
        entryOfWeights "layout" .device [("wide", 100)],
        entryOfWeights "menu" .session [("hidden", 0), ("short", 45), ("long", 200)]]
    let d : Draws := ⟨fun k => 10 * (k % 10 + 1), 0⟩
    (simulate set 7 d).map (fun dist => (dist.experiment, dist.counts.items, dist.none)) =
        [("theme", [("classic", 3), ("boost", 2)], 2),
          ("menu", [("hidden", 0), ("short", 4), ("long", 3)], 0)] ∧
      (∀ k, 0 < d.values k) ∧
      List.Forall₂ (fun x dist => Distribution.Accounts x.1 (d.block 7 x.2) dist)
        (set.items.filter fun e => e.enabled && e.scope != .device).zipIdx (simulate set 7 d) := by
  intro set d
  have hd : ∀ k, 0 < d.values k := fun k => Nat.mul_pos (by decide) (Nat.succ_pos _)
  exact ⟨by decide +kernel, hd, simulation_law set 7 d hd⟩

end Report

end SplitTest

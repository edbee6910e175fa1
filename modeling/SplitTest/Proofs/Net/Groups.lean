import SplitTest.Net.Address
import Mathlib.Data.Nat.Digits.Lemmas

/-!
# Addresses and their groups

The groups of an address are its digits, so they are as many as the family has, each is below
the size of a group, and the number they make is the address (`Address.valueOfGroups_groups`).
Every such list of groups is that of one address (`Address.exists_of_groups`).

The addresses that begin with given groups are those from the groups followed by zeros to the
groups followed by the largest group (`Address.take_groups_eq_iff`).
-/

namespace SplitTest.Net

-- powers are those of the natural numbers themselves, not of a monoid
attribute [local instance (high)] instPowNat

/-! ## The number that groups make -/

section
variable {size : Nat} {gs hs : List Nat}

theorem valueOfGroups_concat (gs : List Nat) (g : Nat) :
    valueOfGroups size (gs ++ [g]) = valueOfGroups size gs * size + g := by
  rw [valueOfGroups, List.foldl_append]
  rfl

/-- Groups are digits, the most significant first. -/
theorem valueOfGroups_eq_ofDigits (gs : List Nat) :
    valueOfGroups size gs = Nat.ofDigits size gs.reverse := by
  induction gs using List.reverseRecOn with
  | nil => rfl
  | append_singleton gs g ih =>
    rw [valueOfGroups_concat, ih, List.reverse_append, List.reverse_singleton,
      List.singleton_append, Nat.ofDigits_cons, Nat.mul_comm, Nat.add_comm]

theorem valueOfGroups_append (gs hs : List Nat) :
    valueOfGroups size (gs ++ hs) =
      valueOfGroups size gs * size ^ hs.length + valueOfGroups size hs := by
  rw [valueOfGroups_eq_ofDigits, List.reverse_append, Nat.ofDigits_append, List.length_reverse,
    ← valueOfGroups_eq_ofDigits, ← valueOfGroups_eq_ofDigits, Nat.add_comm, Nat.mul_comm]

theorem valueOfGroups_lt (hsize : 1 < size) (hgs : ∀ g ∈ gs, g < size) :
    valueOfGroups size gs < size ^ gs.length := by
  have hlt := Nat.ofDigits_lt_base_pow_length hsize fun g hg => hgs g (List.mem_reverse.mp hg)
  rwa [← valueOfGroups_eq_ofDigits, List.length_reverse] at hlt

/-- As many groups that make the same number are the same groups. -/
theorem eq_of_valueOfGroups_eq (hsize : 1 < size) (hlength : gs.length = hs.length)
    (hgs : ∀ g ∈ gs, g < size) (hhs : ∀ g ∈ hs, g < size)
    (h : valueOfGroups size gs = valueOfGroups size hs) : gs = hs := by
  rw [valueOfGroups_eq_ofDigits, valueOfGroups_eq_ofDigits] at h
  refine List.reverse_injective (Nat.ofDigits_inj_of_len_eq hsize ?_ ?_ ?_ h)
  · rw [List.length_reverse, List.length_reverse, hlength]
  · exact fun g hg => hgs g (List.mem_reverse.mp hg)
  · exact fun g hg => hhs g (List.mem_reverse.mp hg)

theorem valueOfGroups_zeros (n : Nat) : valueOfGroups size (List.replicate n 0) = 0 := by
  induction n with
  | zero => rfl
  | succ n ih => rw [List.replicate_succ', valueOfGroups_concat, ih, Nat.zero_mul]

theorem valueOfGroups_largest (hsize : 0 < size) (n : Nat) :
    valueOfGroups size (List.replicate n (size - 1)) + 1 = size ^ n := by
  induction n with
  | zero => rfl
  | succ n ih =>
    rw [List.replicate_succ', valueOfGroups_concat, Nat.pow_succ, ← ih, Nat.add_mul, Nat.one_mul]
    omega

/-- The groups of a number make the number. -/
theorem valueOfGroups_digits (n v : Nat) :
    valueOfGroups size ((List.range n).map fun i => v / size ^ (n - 1 - i) % size) =
      v % size ^ n := by
  induction n generalizing v with
  | zero => rw [Nat.pow_zero, Nat.mod_one]; rfl
  | succ n ih =>
    have hinit : ((List.range n).map fun i => v / size ^ (n + 1 - 1 - i) % size) =
        (List.range n).map fun i => v / size / size ^ (n - 1 - i) % size := by
      refine List.map_congr_left fun i hi => ?_
      have hlt := List.mem_range.mp hi
      rw [Nat.div_div_eq_div_mul, ← Nat.pow_add_one', show n - 1 - i + 1 = n + 1 - 1 - i by omega]
    rw [List.range_succ, List.map_append, List.map_singleton, valueOfGroups_concat, hinit, ih,
      Nat.pow_add_one', Nat.mod_mul, show n + 1 - 1 - n = 0 by omega, Nat.pow_zero, Nat.div_one,
      Nat.mul_comm, Nat.add_comm]

end

/-! ## The groups of an address -/

namespace Family

theorem one_lt_groupSize (f : Family) : 1 < f.groupSize := by
  cases f <;> decide

theorem groupCount_pos (f : Family) : 0 < f.groupCount := by
  cases f <;> decide

theorem two_pow_width (f : Family) : 2 ^ f.width = f.groupSize ^ f.groupCount := by
  cases f <;> rfl

end Family

namespace Address
variable {a b : Address}

theorem eq_iff : a = b ↔ a.family = b.family ∧ a.value = b.value := by
  constructor
  · rintro rfl
    exact ⟨rfl, rfl⟩
  · obtain ⟨f, v, _⟩ := a
    obtain ⟨f', v', _⟩ := b
    rintro ⟨rfl, rfl⟩
    rfl

theorem length_groups (a : Address) : a.groups.length = a.family.groupCount := by
  rw [groups, List.length_map, List.length_range]

theorem groups_lt (a : Address) : ∀ g ∈ a.groups, g < a.family.groupSize := by
  intro g hg
  obtain ⟨i, -, rfl⟩ := List.mem_map.mp hg
  exact Nat.mod_lt _ (Nat.zero_lt_of_lt a.family.one_lt_groupSize)

/-- **The groups of an address make its number.** -/
theorem valueOfGroups_groups (a : Address) :
    valueOfGroups a.family.groupSize a.groups = a.value := by
  have hfits := a.fits
  rw [a.family.two_pow_width] at hfits
  rw [groups, show a.group = fun i => a.value / a.family.groupSize ^ (a.family.groupCount - 1 - i)
    % a.family.groupSize from rfl, valueOfGroups_digits, Nat.mod_eq_of_lt hfits]

/-- **Groups as a family has them are those of an address.** -/
theorem ofGroups?_eq_some {f : Family} {gs : List Nat} (hlength : gs.length = f.groupCount)
    (hgs : ∀ g ∈ gs, g < f.groupSize) :
    ∃ a, ofGroups? f gs = some a ∧ a.family = f ∧ a.groups = gs := by
  have hfits : valueOfGroups f.groupSize gs < 2 ^ f.width := by
    rw [f.two_pow_width, ← hlength]
    exact valueOfGroups_lt f.one_lt_groupSize hgs
  refine ⟨⟨f, _, hfits⟩, dif_pos hfits, rfl, ?_⟩
  let a : Address := ⟨f, valueOfGroups f.groupSize gs, hfits⟩
  exact eq_of_valueOfGroups_eq f.one_lt_groupSize (a.length_groups.trans hlength.symm)
    a.groups_lt hgs a.valueOfGroups_groups

/-- The first groups make the leading part of the number. -/
theorem valueOfGroups_take (a : Address) (k : Nat) :
    valueOfGroups a.family.groupSize (a.groups.take k) =
      a.value / a.family.groupSize ^ (a.family.groupCount - k) := by
  have hlength : (a.groups.drop k).length = a.family.groupCount - k := by
    rw [List.length_drop, length_groups]
  have hrest : valueOfGroups a.family.groupSize (a.groups.drop k) <
      a.family.groupSize ^ (a.family.groupCount - k) := by
    rw [← hlength]
    exact valueOfGroups_lt a.family.one_lt_groupSize fun g hg =>
      a.groups_lt g (List.mem_of_mem_drop hg)
  rw [← valueOfGroups_groups a, ← List.take_append_drop k a.groups, valueOfGroups_append, hlength,
    List.take_append_drop, Nat.mul_comm, Nat.mul_add_div (Nat.zero_lt_of_lt hrest),
    Nat.div_eq_of_lt hrest, Nat.add_zero]

theorem valueOfGroups_dropLast (a : Address) :
    valueOfGroups a.family.groupSize a.groups.dropLast = a.leadingGroups := by
  have hcount := a.family.groupCount_pos
  rw [List.dropLast_eq_take, length_groups, valueOfGroups_take,
    show a.family.groupCount - (a.family.groupCount - 1) = 1 by omega, Nat.pow_one]
  rfl

/-- **The addresses that begin with given groups are an interval**, from the groups followed
by zeros to the groups followed by the largest group. -/
theorem take_groups_eq_iff {gs : List Nat} (hlength : gs.length ≤ a.family.groupCount)
    (hgs : ∀ g ∈ gs, g < a.family.groupSize) :
    a.groups.take gs.length = gs ↔
      valueOfGroups a.family.groupSize
          (gs ++ List.replicate (a.family.groupCount - gs.length) 0) ≤ a.value ∧
        a.value ≤ valueOfGroups a.family.groupSize (gs ++ List.replicate
          (a.family.groupCount - gs.length) (a.family.groupSize - 1)) := by
  have hsize := a.family.one_lt_groupSize
  have hpos : 0 < a.family.groupSize ^ (a.family.groupCount - gs.length) :=
    Nat.pow_pos (Nat.zero_lt_of_lt hsize)
  have hlargest := valueOfGroups_largest (Nat.zero_lt_of_lt hsize)
    (a.family.groupCount - gs.length)
  have hvalue : a.groups.take gs.length = gs ↔
      a.value / a.family.groupSize ^ (a.family.groupCount - gs.length) =
        valueOfGroups a.family.groupSize gs := by
    rw [← valueOfGroups_take]
    refine ⟨fun h => congrArg _ h, eq_of_valueOfGroups_eq hsize ?_ ?_ hgs⟩
    · rw [List.length_take, length_groups, Nat.min_eq_left hlength]
    · exact fun g hg => a.groups_lt g (List.mem_of_mem_take hg)
  rw [hvalue, valueOfGroups_append, valueOfGroups_append, valueOfGroups_zeros,
    List.length_replicate, List.length_replicate, Nat.div_eq_iff hpos]
  omega

end Address

end SplitTest.Net

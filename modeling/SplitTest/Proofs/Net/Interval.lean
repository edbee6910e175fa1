import SplitTest.Proofs.Net.AllowList

/-!
# Entries of an allow-list as intervals

Whatever way an entry is written, it stands for the addresses of one family whose numbers lie
between two bounds: an address for itself alone, a block for the numbers that agree with it in
their leading bits, a range for those from the address to the same address with another last
group, and a beginning for the groups followed by anything.  `Spans` lists these forms with
their bounds, and `AllowList.interval_law` says that a list of one entry contains exactly the
addresses between them.

The forms are tried one after another, and the first that reads an entry decides.  None reads
an entry of another, because an address has no slash and no dash in it, and a beginning has
too few groups for an address.
-/

namespace SplitTest.Net

open SplitTest.Text

-- powers are those of the natural numbers themselves, not of a monoid
attribute [local instance (high)] instPowNat

/-- The base in which a family writes its groups. -/
def Family.base : Family → Nat
  | v4 => 10
  | v6 => 16

/-- **The entry stands for the addresses of a family from `lo` to `hi`.**  Blanks may stand
around an address and a number in it. -/
inductive Spans : List Char → Family → Nat → Nat → Prop where
  /-- An address. -/
  | exact {s : List Char} {x : Address} (hx : Address.parse? s = some x) :
    Spans s x.family x.value x.value
  /-- A block `n/p`: the numbers that have the first `p` bits of `n`. -/
  | block {s t : List Char} {n : Address} {p : Nat} (hn : Address.parse? (trim s) = some n)
      (hp : unsigned? 10 256 (trim t) = some p) (hwidth : p ≤ n.family.width) :
    Spans (s ++ '/' :: t) n.family (n.value - n.value % 2 ^ (n.family.width - p))
      (n.value - n.value % 2 ^ (n.family.width - p) + 2 ^ (n.family.width - p) - 1)
  /-- A range `s-l`: from `s` to `s` with the last group `l`. -/
  | range {s t : List Char} {start : Address} {l : Nat}
      (hstart : Address.parse? (trim s) = some start)
      (hl : unsigned? start.family.base start.family.groupSize (trim t) = some l) :
    Spans (s ++ '-' :: t) start.family start.value
      (valueOfGroups start.family.groupSize (start.groups.dropLast ++ [l]))
  /-- One to three groups of version 4, which a dot may follow. -/
  | beginning {gs : List Nat} {dot : List Char} (hne : gs ≠ []) (hlength : gs.length ≤ 3)
      (hgs : ∀ g ∈ gs, g < 256) (hdot : dot = [] ∨ dot = ['.']) :
    Spans (dotted gs ++ dot) .v4
      (valueOfGroups 256 (gs ++ List.replicate (4 - gs.length) 0))
      (valueOfGroups 256 (gs ++ List.replicate (4 - gs.length) 255))

/-! ## The rule of an entry -/

/-- Whether `c` can stand neither in an address or a number nor around them. -/
def isApart (c : Char) : Bool := !isBlank c && !isAddressChar c && c != '+'

section
variable {s t : List Char} {x : Address} {base bound n : Nat} {c sep : Char}

theorem not_mem_of_parse?_trim (h : Address.parse? (trim s) = some x) (hc : isApart c = true) :
    c ∉ s := by
  simp only [isApart, Bool.and_eq_true, Bool.not_eq_true'] at hc
  obtain ⟨⟨hblank, hnot⟩, -⟩ := hc
  intro hmem
  rw [Address.parse?_eq_none_of_mem (mem_trim hmem hblank) hnot] at h
  cases h

theorem not_mem_of_unsigned?_trim (hbase : base ≤ 16) (h : unsigned? base bound (trim t) = some n)
    (hc : isApart c = true) : c ∉ t := by
  simp only [isApart, Bool.and_eq_true, Bool.not_eq_true', bne_iff_ne] at hc
  obtain ⟨⟨hblank, hnot⟩, hplus⟩ := hc
  intro hmem
  obtain ⟨d, hd⟩ := ((digits_of_unsigned? h).2 c (mem_trim hmem hblank)).resolve_left hplus
  have hhex := digit?_of_lt hd (Nat.lt_of_lt_of_le (lt_of_digit? hd) hbase)
  rw [isAddressChar_of_isHexDigit (isHexDigit_eq_true_iff.mpr ⟨d, hhex⟩)] at hnot
  cases hnot

/-- An address and a number have nothing else in them than the sign between them. -/
theorem not_mem_of_address_number (hx : Address.parse? (trim s) = some x) (hbase : base ≤ 16)
    (hn : unsigned? base bound (trim t) = some n) (hc : isApart c = true) (hsep : c ≠ sep) :
    c ∉ s ++ sep :: t := by
  rw [List.mem_append, List.mem_cons]
  rintro (hmem | hmem | hmem)
  · exact not_mem_of_parse?_trim hx hc hmem
  · exact hsep hmem
  · exact not_mem_of_unsigned?_trim hbase hn hc hmem

end

theorem Family.base_le (f : Family) : f.base ≤ 16 := by
  cases f <;> decide

namespace Rule
variable {s t : List Char} {x : Address} {a : Address}

theorem parse?_of_address (h : Address.parse? s = some x) : parse? s = some (exact x) := by
  rw [parse?, h]

theorem parse?_of_block {p : Nat} (hx : Address.parse? (trim s) = some x)
    (hp : unsigned? 10 256 (trim t) = some p) (hwidth : p ≤ x.family.width) :
    parse? (s ++ '/' :: t) = some (block x p) := by
  have hnone : Address.parse? (s ++ '/' :: t) = none :=
    Address.parse?_eq_none_of_mem (List.mem_append_right s List.mem_cons_self) (by decide)
  rw [parse?, hnone, cut?_eq_some_iff.mpr ⟨rfl, not_mem_of_parse?_trim hx (by decide)⟩]
  show block? s t = _
  rw [block?, hx, hp]
  exact if_pos hwidth

theorem parse?_of_range {l : Nat} (hx : Address.parse? (trim s) = some x)
    (hl : unsigned? x.family.base x.family.groupSize (trim t) = some l) :
    parse? (s ++ '-' :: t) = some (range x l) := by
  have hnone : Address.parse? (s ++ '-' :: t) = none :=
    Address.parse?_eq_none_of_mem (List.mem_append_right s List.mem_cons_self) (by decide)
  have hslash : '/' ∉ s ++ '-' :: t :=
    not_mem_of_address_number hx x.family.base_le hl (by decide) (by decide)
  rw [parse?, hnone, cut?_eq_none_iff.mpr hslash]
  dsimp only
  rw [cut?_eq_some_iff.mpr ⟨rfl, not_mem_of_parse?_trim hx (by decide)⟩]
  show range? s t = _
  refine Option.bind_eq_some_iff.mpr ⟨x, hx, ?_⟩
  cases hfamily : x.family with
  | v4 | v6 =>
    rw [hfamily] at hl
    exact Option.bind_eq_some_iff.mpr ⟨l, hl, rfl⟩

theorem mem_beginning {gs : List Nat} {dot : List Char} {c : Char}
    (hdot : dot = [] ∨ dot = ['.']) (hc : c ∈ dotted gs ++ dot) : c = '.' ∨ isDigit c = true := by
  rcases List.mem_append.mp hc with hc | hc
  · exact mem_dotted hc
  · rcases hdot with rfl | rfl
    · cases hc
    · exact Or.inl (List.mem_singleton.mp hc)

theorem not_mem_beginning {gs : List Nat} {dot : List Char} {c : Char}
    (hdot : dot = [] ∨ dot = ['.']) (hpoint : c ≠ '.') (hdigit : isDigit c = false) :
    c ∉ dotted gs ++ dot := by
  intro hc
  rw [(mem_beginning hdot hc).resolve_left hpoint] at hdigit
  cases hdigit

theorem parse?_of_beginning {gs : List Nat} {dot : List Char} (hne : gs ≠ [])
    (hlength : gs.length ≤ 3) (hdot : dot = [] ∨ dot = ['.']) :
    parse? (dotted gs ++ dot) = some (beginning (dotted gs ++ ['.'])) := by
  have hnot {c : Char} (hpoint : c ≠ '.') (hdigit : isDigit c = false) : c ∉ dotted gs ++ dot :=
    not_mem_beginning hdot hpoint hdigit
  have hoctets : octets? (dotted gs ++ dot) = none := by
    cases h : octets? (dotted gs ++ dot) with
    | none => rfl
    | some r =>
      obtain ⟨hfour, hpieces⟩ := pieces_of_octets? h
      rcases hdot with rfl | rfl
      · rw [List.append_nil, pieces_dotted hne, List.length_map] at hfour
        omega
      · -- the piece after the last dot is empty
        rw [pieces_concat_sep] at hpieces
        obtain ⟨g, hg⟩ := hpieces [] (by simp)
        exact absurd rfl (chars_of_octet? hg).2.1
  have hgroups : groups6? (dotted gs ++ dot) = none :=
    groups6?_of_not_mem (hnot (by decide) (by decide))
  rw [parse?, Address.parse?_eq_none hoctets hgroups,
    cut?_eq_none_iff.mpr (hnot (by decide) (by decide))]
  dsimp only
  rw [cut?_eq_none_iff.mpr (hnot (by decide) (by decide))]
  show beginning? (dotted gs ++ dot) = _
  have hall : ((dotted gs ++ dot).all fun c => isDigit c || c == '.') = true := by
    refine List.all_eq_true.mpr fun c hc => ?_
    rcases mem_beginning hdot hc with rfl | hdigit
    · rfl
    · rw [hdigit, Bool.true_or]
  rw [beginning?, if_pos hall]
  rcases hdot with rfl | rfl
  · rw [List.append_nil, if_neg]
    -- a dot at the end would leave an empty group
    intro hlast
    obtain ⟨init, hinit⟩ := List.getLast?_eq_some_iff.mp hlast
    refine joinable_decimal.nil_not_mem gs ?_
    rw [← pieces_dotted hne, hinit, pieces_concat_sep]
    simp
  · rw [if_pos (by simp)]

/-! ## What a rule contains -/

theorem contains_exact_iff :
    contains a (exact x) = true ↔ a.family = x.family ∧ x.value ≤ a.value ∧ a.value ≤ x.value := by
  show (x == a) = true ↔ _
  rw [beq_iff_eq, Address.eq_iff]
  constructor
  · rintro ⟨hfamily, hvalue⟩
    exact ⟨hfamily.symm, by omega, by omega⟩
  · rintro ⟨hfamily, hle, hge⟩
    exact ⟨hfamily.symm, by omega⟩

theorem contains_block_iff {p : Nat} :
    contains a (block x p) = true ↔
      a.family = x.family ∧ x.value - x.value % 2 ^ (x.family.width - p) ≤ a.value ∧
        a.value ≤ x.value - x.value % 2 ^ (x.family.width - p) + 2 ^ (x.family.width - p) - 1 := by
  have hpos : 0 < 2 ^ (x.family.width - p) := Nat.two_pow_pos _
  have hbegin : x.value / 2 ^ (x.family.width - p) * 2 ^ (x.family.width - p) =
      x.value - x.value % 2 ^ (x.family.width - p) := by
    have hdiv := Nat.div_add_mod' x.value (2 ^ (x.family.width - p))
    omega
  rw [contains, Bool.and_eq_true, beq_iff_eq, beq_iff_eq, eq_comm (a := x.family),
    eq_comm (a := x.value / 2 ^ _), Nat.div_eq_iff hpos, hbegin]

/-- Numbers that differ in their last group only. -/
theorem same_leading_iff {size l v w : Nat} (hl : l < size) :
    v / size = w / size ∧ v % size ≤ w % size ∧ w % size ≤ l ↔
      v ≤ w ∧ w ≤ v / size * size + l := by
  have hv := Nat.div_add_mod' v size
  have hw := Nat.div_add_mod' w size
  constructor
  · rintro ⟨hlead, hfrom, hto⟩
    rw [← hlead] at hw
    omega
  · rintro ⟨hfrom, hto⟩
    have hlead : v / size = w / size :=
      (Nat.div_eq_of_lt_le (by omega) (by rw [Nat.succ_mul]; omega)).symm
    rw [← hlead] at hw
    exact ⟨hlead, by omega, by omega⟩

theorem contains_range_iff {l : Nat} (hl : l < x.family.groupSize) :
    contains a (range x l) = true ↔
      a.family = x.family ∧ x.value ≤ a.value ∧
        a.value ≤ valueOfGroups x.family.groupSize (x.groups.dropLast ++ [l]) := by
  rw [valueOfGroups_concat, Address.valueOfGroups_dropLast, contains]
  simp only [Bool.and_eq_true, beq_iff_eq, decide_eq_true_eq, and_assoc]
  rw [eq_comm (a := x.family)]
  refine and_congr_right fun hfamily => ?_
  rw [Address.leadingGroups, Address.leadingGroups, Address.lastGroup, Address.lastGroup, hfamily]
  exact same_leading_iff hl

theorem contains_beginning_iff {gs : List Nat} (hne : gs ≠ []) (hlength : gs.length ≤ 3)
    (hgs : ∀ g ∈ gs, g < 256) :
    contains a (beginning (dotted gs ++ ['.'])) = true ↔
      a.family = .v4 ∧
        valueOfGroups 256 (gs ++ List.replicate (4 - gs.length) 0) ≤ a.value ∧
        a.value ≤ valueOfGroups 256 (gs ++ List.replicate (4 - gs.length) 255) := by
  rw [contains, List.isPrefixOf_iff_prefix, Address.dotted_isPrefix_text_iff hne]
  refine and_congr_right fun hfamily => ?_
  have hinterval := @Address.take_groups_eq_iff a gs
  rw [hfamily] at hinterval
  rw [and_iff_right (by omega), hinterval (by show gs.length ≤ 4; omega) hgs]
  rfl

end Rule

/-! ## Entries -/

namespace Spans
variable {e : List Char} {f : Family} {lo hi : Nat}

/-- **The rule of an entry contains the addresses between the bounds.** -/
theorem exists_rule (h : Spans e f lo hi) :
    ∃ r, Rule.parse? e = some r ∧
      ∀ a, r.contains a = true ↔ a.family = f ∧ lo ≤ a.value ∧ a.value ≤ hi := by
  cases h with
  | exact hx => exact ⟨_, Rule.parse?_of_address hx, fun a => Rule.contains_exact_iff⟩
  | block hn hp hwidth =>
    exact ⟨_, Rule.parse?_of_block hn hp hwidth, fun a => Rule.contains_block_iff⟩
  | range hstart hl =>
    exact ⟨_, Rule.parse?_of_range hstart hl, fun a =>
      Rule.contains_range_iff (lt_of_unsigned? hl)⟩
  | beginning hne hlength hgs hdot =>
    exact ⟨_, Rule.parse?_of_beginning hne hlength hdot, fun a =>
      Rule.contains_beginning_iff hne hlength hgs⟩

/-- An entry is not empty, and nothing in it ends one. -/
theorem not_mem (h : Spans e f lo hi) : e ≠ [] ∧ ',' ∉ e ∧ '#' ∉ e := by
  cases h with
  | exact hx =>
    obtain ⟨hne, hchars⟩ := Address.chars_of_parse? hx
    exact ⟨hne, fun hc => absurd (hchars _ hc) (by decide),
      fun hc => absurd (hchars _ hc) (by decide)⟩
  | block hn hp hwidth =>
    exact ⟨by simp, not_mem_of_address_number hn (by decide) hp (by decide) (by decide),
      not_mem_of_address_number hn (by decide) hp (by decide) (by decide)⟩
  | @range s t start l hstart hl =>
    have hbase := start.family.base_le
    exact ⟨by simp, not_mem_of_address_number hstart hbase hl (by decide) (by decide),
      not_mem_of_address_number hstart hbase hl (by decide) (by decide)⟩
  | beginning hne hlength hgs hdot =>
    exact ⟨List.append_ne_nil_of_left_ne_nil (dotted_ne_nil hne) _,
      Rule.not_mem_beginning hdot (by decide) (by decide),
      Rule.not_mem_beginning hdot (by decide) (by decide)⟩

end Spans

/-- The text of four groups of version 4, as an entry has it. -/
theorem Address.exists_parse?_trim {gs : List Nat} (hlength : gs.length = 4)
    (hgs : ∀ g ∈ gs, g < 256) :
    ∃ x, parse? (trim (dotted gs)) = some x ∧ x.family = .v4 ∧ x.groups = gs ∧
      x.value = valueOfGroups 256 gs := by
  obtain ⟨x, hx, hfamily, hgroups⟩ := parse?_dotted hlength hgs
  have hvalue := x.valueOfGroups_groups
  rw [hfamily, hgroups] at hvalue
  refine ⟨x, ?_, hfamily, hgroups, hvalue.symm⟩
  rw [trim_of_forall_mem fun c hc => isBlank_of_mem_dotted hc, hx]

theorem unsigned?_trim_decimal {n bound : Nat} (h : n < bound) :
    unsigned? 10 bound (trim (decimal n)) = some n := by
  rw [trim_of_forall_mem fun c hc => isBlank_of_mem_decimal hc, unsigned?_decimal h]

/-- The block of all the bits of some groups has the bounds of these groups as a beginning. -/
theorem spans_block_of_groups {gs : List Nat} (hlength : gs.length ≤ 3)
    (hgs : ∀ g ∈ gs, g < 256) :
    Spans (dotted (gs ++ List.replicate (4 - gs.length) 0) ++ '/' :: decimal (8 * gs.length)) .v4
      (valueOfGroups 256 (gs ++ List.replicate (4 - gs.length) 0))
      (valueOfGroups 256 (gs ++ List.replicate (4 - gs.length) 255)) := by
  have hzeros : ∀ g ∈ gs ++ List.replicate (4 - gs.length) 0, g < 256 := by
    intro g hg
    rcases List.mem_append.mp hg with hg | hg
    · exact hgs g hg
    · rw [List.eq_of_mem_replicate hg]
      decide
  have hfour : (gs ++ List.replicate (4 - gs.length) 0).length = 4 := by
    rw [List.length_append, List.length_replicate]
    omega
  obtain ⟨x, hx, hfamily, -, hvalue⟩ := Address.exists_parse?_trim hfour hzeros
  have hspans := Spans.block hx (unsigned?_trim_decimal (n := 8 * gs.length) (by omega))
    (by rw [hfamily]; show 8 * gs.length ≤ 32; omega)
  have hpow : 2 ^ (Family.width .v4 - 8 * gs.length) = 256 ^ (4 - gs.length) := by
    rw [show Family.width .v4 - 8 * gs.length = 8 * (4 - gs.length) by
      show 32 - 8 * gs.length = _; omega, Nat.pow_mul]
  have hlargest : valueOfGroups 256 (List.replicate (4 - gs.length) 255) + 1 =
      256 ^ (4 - gs.length) := valueOfGroups_largest (by decide) _
  rw [hfamily, hvalue, hpow, valueOfGroups_append, List.length_replicate, valueOfGroups_zeros,
    Nat.add_zero, Nat.mul_mod_left, Nat.sub_zero, ← hlargest, ← Nat.add_assoc,
    Nat.add_sub_cancel] at hspans
  rw [valueOfGroups_append, valueOfGroups_append, List.length_replicate, List.length_replicate,
    valueOfGroups_zeros, Nat.add_zero, ← hlargest]
  exact hspans

/-- So has the range of all last groups. -/
theorem spans_range_of_groups {gs : List Nat} (hlength : gs.length = 3)
    (hgs : ∀ g ∈ gs, g < 256) :
    Spans (dotted (gs ++ [0]) ++ '-' :: decimal 255) .v4
      (valueOfGroups 256 (gs ++ [0])) (valueOfGroups 256 (gs ++ [255])) := by
  have hfour : (gs ++ [0]).length = 4 := by rw [List.length_append, hlength]; rfl
  have hzero : ∀ g ∈ gs ++ [0], g < 256 := by
    intro g hg
    rcases List.mem_append.mp hg with hg | hg
    · exact hgs g hg
    · rw [List.mem_singleton.mp hg]
      decide
  obtain ⟨x, hx, hfamily, hgroups, hvalue⟩ := Address.exists_parse?_trim hfour hzero
  have hspans := Spans.range (t := decimal 255) (l := 255) hx (by
    rw [hfamily]
    exact unsigned?_trim_decimal (by decide))
  rw [hfamily, hgroups, hvalue, List.dropLast_concat] at hspans
  exact hspans

namespace AllowList

/-- The two texts list the same addresses. -/
def SameAddresses (s t : String) : Prop := ∀ a, (parse s).contains a = (parse t).contains a

/-- **A list of one entry contains the addresses between its bounds.** -/
theorem contains_iff_of_spans {entry : String} {f : Family} {lo hi : Nat}
    (hline : '\n' ∉ entry.toList) (h : Spans (trim entry.toList) f lo hi) (a : Address) :
    (parse entry).contains a = true ↔ a.family = f ∧ lo ≤ a.value ∧ a.value ≤ hi := by
  obtain ⟨r, hr, hcontains⟩ := h.exists_rule
  obtain ⟨hne, hcomma, hcomment⟩ := h.not_mem
  rw [contains_parse hline (fun hc => hcomma (mem_trim hc (by decide)))
    (fun hc => hcomment (mem_trim hc (by decide))) hne hr, hcontains]

/-- Entries without blanks that have the same bounds list the same addresses. -/
theorem sameAddresses_of_spans {s t : List Char} {f : Family} {lo hi : Nat}
    (hs : ∀ c ∈ s, isBlank c = false) (ht : ∀ c ∈ t, isBlank c = false)
    (hspans : Spans s f lo hi) (hspant : Spans t f lo hi) :
    SameAddresses (.ofList s) (.ofList t) := by
  have hcontains {u : List Char} (hu : ∀ c ∈ u, isBlank c = false) (hspan : Spans u f lo hi)
      (a : Address) : (parse (.ofList u)).contains a = true ↔
        a.family = f ∧ lo ≤ a.value ∧ a.value ≤ hi := by
    refine contains_iff_of_spans ?_ ?_ a
    · rw [String.toList_ofList]
      exact fun hc => absurd (hu _ hc) (by decide)
    · rw [String.toList_ofList, trim_of_forall_mem hu]
      exact hspan
  intro a
  rw [Bool.eq_iff_iff, hcontains hs hspans, hcontains ht hspant]

/-- **Entries are intervals.**  A list of one entry, of whichever form, contains an address if
and only if it is of the entry's family and its number lies between the entry's bounds; the
bounds of a range whose last group is below that of its address have nothing between them.  So
one to three groups of version 4, the same with a dot, and the block of their bits list the
same addresses, and so do the range and the block of all the last groups. -/
theorem interval_law :
    (∀ (entry : String) (f : Family) (lo hi : Nat), '\n' ∉ entry.toList →
      Spans (trim entry.toList) f lo hi → ∀ a : Address,
        (parse entry).contains a = true ↔ a.family = f ∧ lo ≤ a.value ∧ a.value ≤ hi) ∧
    (∀ (start : Address) (l : Nat), l < start.lastGroup →
      valueOfGroups start.family.groupSize (start.groups.dropLast ++ [l]) < start.value) ∧
    (∀ gs : List Nat, gs ≠ [] → gs.length ≤ 3 → (∀ g ∈ gs, g < 256) →
      SameAddresses (.ofList (dotted gs)) (.ofList (dotted gs ++ ['.'])) ∧
      SameAddresses (.ofList (dotted gs))
        (.ofList (dotted (gs ++ List.replicate (4 - gs.length) 0) ++
          '/' :: decimal (8 * gs.length)))) ∧
    (∀ gs : List Nat, gs.length = 3 → (∀ g ∈ gs, g < 256) →
      SameAddresses (.ofList (dotted (gs ++ [0]) ++ '-' :: decimal 255))
        (.ofList (dotted (gs ++ [0]) ++ '/' :: decimal 24))) := by
  have hpart {gs : List Nat} {t : List Char} (ht : ∀ c ∈ t, isBlank c = false) :
      ∀ c ∈ dotted gs ++ t, isBlank c = false := by
    intro c hc
    rcases List.mem_append.mp hc with hc | hc
    · exact isBlank_of_mem_dotted hc
    · exact ht c hc
  have hnumber {sep : Char} (hsep : isBlank sep = false) (n : Nat) :
      ∀ c ∈ sep :: decimal n, isBlank c = false :=
    List.forall_mem_cons.mpr ⟨hsep, fun c hc => isBlank_of_mem_decimal hc⟩
  refine ⟨fun entry f lo hi hline h a => contains_iff_of_spans hline h a, ?_, ?_, ?_⟩
  · intro start l hl
    have hvalue := Nat.div_add_mod' start.value start.family.groupSize
    rw [valueOfGroups_concat, Address.valueOfGroups_dropLast, Address.leadingGroups]
    rw [Address.lastGroup] at hl
    omega
  · intro gs hne hlength hgs
    have hplain := Spans.beginning hne hlength hgs (Or.inl rfl)
    rw [List.append_nil] at hplain
    have hdot : ∀ c ∈ ['.'], isBlank c = false := List.forall_mem_singleton.mpr rfl
    exact ⟨sameAddresses_of_spans (fun c hc => isBlank_of_mem_dotted hc) (hpart hdot) hplain
        (Spans.beginning hne hlength hgs (Or.inr rfl)),
      sameAddresses_of_spans (fun c hc => isBlank_of_mem_dotted hc)
        (hpart (hnumber (by decide) _)) hplain (spans_block_of_groups hlength hgs)⟩
  · intro gs hlength hgs
    have hblock := spans_block_of_groups (Nat.le_of_eq hlength) hgs
    rw [hlength] at hblock
    exact sameAddresses_of_spans (hpart (hnumber (by decide) _)) (hpart (hnumber (by decide) _))
      (spans_range_of_groups hlength hgs) hblock

/-- Three ways to write all addresses that begin with `10.1`, and two ways for `10.1.2`. -/
theorem tenOne_sameAddresses :
    (SameAddresses "10.1" "10.1." ∧ SameAddresses "10.1" "10.1.0.0/16") ∧
      SameAddresses "10.1.2.0-255" "10.1.2.0/24" :=
  ⟨interval_law.2.2.1 [10, 1] (by decide) (by decide) (by decide),
    interval_law.2.2.2 [10, 1, 2] (by decide) (by decide)⟩

end AllowList

end SplitTest.Net

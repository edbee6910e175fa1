import SplitTest.Net.AddressText
import SplitTest.Proofs.Lists
import SplitTest.Proofs.Net.Groups
import SplitTest.Proofs.Text.Numeral
import SplitTest.Proofs.Text.Pieces

/-!
# The text of addresses

A text that is read as an address is not empty and has hexadecimal digits, dots and colons
only (`Address.chars_of_parse?`), so no blank, comma, slash or dash can stand in it.  A text
without a colon must have four octets, and one that ends in a colon is no address unless two
do.

What is written for an address of version 4 is its four groups in decimal, and is read as the
same address (`Address.parse?_dotted`).  A beginning that stops after a dot is that of
addresses of version 4 only: the one form of version 6 that has dots starts with a colon
(`Address.dotted_isPrefix_text_iff`).
-/

namespace SplitTest.Net

open SplitTest.Text

/-- Whether `c` can stand in the text of an address. -/
def isAddressChar (c : Char) : Bool := isHexDigit c || c == '.' || c == ':'

theorem isAddressChar_of_isHexDigit {c : Char} (h : isHexDigit c = true) :
    isAddressChar c = true := by
  simp [isAddressChar, h]

theorem isAddressChar_of_isDigit {c : Char} (h : isDigit c = true) : isAddressChar c = true :=
  isAddressChar_of_isHexDigit (isHexDigit_of_isDigit h)

/-! ## Reading -/

section
variable {s : List Char} {ps : List (List Char)} {gs : List Nat} {g : Nat}

theorem chars_of_octet? (h : octet? s = some g) :
    g < 256 ∧ s ≠ [] ∧ ∀ c ∈ s, isDigit c = true := by
  rw [octet?] at h
  split at h
  · obtain ⟨hread, hlt⟩ := Option.filter_eq_some_iff.mp h
    obtain ⟨hne, hdigits⟩ := digits_of_natural? hread
    exact ⟨of_decide_eq_true hlt, hne, fun c hc => isDigit_eq_true_iff.mpr (hdigits c hc)⟩
  · cases h

theorem chars_of_hextet? (h : hextet? s = some g) :
    s ≠ [] ∧ ∀ c ∈ s, isHexDigit c = true := by
  rw [hextet?] at h
  split at h
  · obtain ⟨hne, hdigits⟩ := digits_of_natural? h
    exact ⟨hne, fun c hc => isHexDigit_eq_true_iff.mpr (hdigits c hc)⟩
  · cases h

/-- A dotted address has four octets. -/
theorem pieces_of_octets? (h : octets? s = some gs) :
    (pieces '.' s).length = 4 ∧ ∀ p ∈ pieces '.' s, ∃ g, octet? p = some g := by
  rw [octets?] at h
  split at h
  · next hlength =>
    refine ⟨hlength, fun p hp => ?_⟩
    have hmem : octet? p ∈ gs.map some := mapM_eq_some_iff.mp h ▸ List.mem_map_of_mem hp
    obtain ⟨g, -, hg⟩ := List.mem_map.mp hmem
    exact ⟨g, hg.symm⟩
  · cases h

theorem chars_of_octets? (h : octets? s = some gs) :
    s ≠ [] ∧ ∀ c ∈ s, c = '.' ∨ isDigit c = true := by
  obtain ⟨hlength, hpieces⟩ := pieces_of_octets? h
  constructor
  · rintro rfl
    exact absurd hlength (by decide)
  · intro c hc
    by_cases hdot : c = '.'
    · exact Or.inl hdot
    · obtain ⟨p, hp, hcp⟩ := exists_mem_pieces hc hdot
      obtain ⟨g, hg⟩ := hpieces p hp
      exact Or.inr ((chars_of_octet? hg).2.2 c hcp)

/-- No piece between colons is empty. -/
theorem chars_of_hextets? (h : hextets? ps = some gs) :
    ∀ p ∈ ps, p ≠ [] ∧ ∀ c ∈ p, isAddressChar c = true := by
  have hextet {p : List Char} {g : Nat} (hp : hextet? p = some g) :
      p ≠ [] ∧ ∀ c ∈ p, isAddressChar c = true :=
    ⟨(chars_of_hextet? hp).1,
      fun c hc => isAddressChar_of_isHexDigit ((chars_of_hextet? hp).2 c hc)⟩
  fun_induction hextets? ps generalizing gs with
  | case1 => rintro p ⟨⟩
  | case2 p a b c d hread =>
    obtain ⟨hne, hchars⟩ := chars_of_octets? hread
    refine List.forall_mem_singleton.mpr ⟨hne, fun c hc => ?_⟩
    rcases hchars c hc with rfl | hdigit
    · rfl
    · exact isAddressChar_of_isDigit hdigit
  | case3 p hread =>
    obtain ⟨g, hg, -⟩ := Option.map_eq_some_iff.mp h
    exact List.forall_mem_singleton.mpr (hextet hg)
  | case4 p q ps ih =>
    obtain ⟨g, hg, hrest⟩ := Option.bind_eq_some_iff.mp h
    obtain ⟨gs', hgs', -⟩ := Option.bind_eq_some_iff.mp hrest
    exact List.forall_mem_cons.mpr ⟨hextet hg, ih hgs'⟩

theorem chars_of_pieces (h : ∀ p ∈ pieces ':' s, ∀ c ∈ p, isAddressChar c = true) :
    ∀ c ∈ s, isAddressChar c = true := by
  intro c hc
  by_cases hcolon : c = ':'
  · rw [hcolon]
    rfl
  · obtain ⟨p, hp, hcp⟩ := exists_mem_pieces hc hcolon
    exact h p hp c hcp

theorem eq_of_cutDoubleColon? {a b : List Char} (h : cutDoubleColon? s = some (a, b)) :
    s = a ++ ':' :: ':' :: b := by
  fun_induction cutDoubleColon? s generalizing a with
  | case1 => cases h
  | case2 s =>
    obtain ⟨rfl, rfl⟩ := Prod.mk.inj (Option.some.inj h)
    rfl
  | case3 c s hnot ih =>
    obtain ⟨⟨a', b'⟩, hcut, e⟩ := Option.map_eq_some_iff.mp h
    obtain ⟨rfl, rfl⟩ := Prod.mk.inj e
    rw [ih hcut, List.cons_append]

/-- What stands on either side of a double colon is read for itself. -/
theorem sides_of_groups6? {left right : List Char} (hcut : cutDoubleColon? s = some (left, right))
    (h : groups6? s = some gs) :
    (left = [] ∨ ∃ head, (pieces ':' left).mapM hextet? = some head) ∧
      ∃ tail, sideGroups? right = some tail := by
  rw [groups6?, hcut] at h
  dsimp only at h
  split at h
  · next hempty =>
    obtain ⟨head, -, hrest⟩ := Option.bind_eq_some_iff.mp h
    obtain ⟨tail, htail, -⟩ := Option.bind_eq_some_iff.mp hrest
    exact ⟨Or.inl (List.isEmpty_iff.mp hempty), tail, htail⟩
  · obtain ⟨head, hhead, hrest⟩ := Option.bind_eq_some_iff.mp h
    obtain ⟨tail, htail, -⟩ := Option.bind_eq_some_iff.mp hrest
    exact ⟨Or.inr ⟨head, hhead⟩, tail, htail⟩

theorem chars_of_sideGroups? (h : sideGroups? s = some gs) : ∀ c ∈ s, isAddressChar c = true := by
  unfold sideGroups? at h
  split at h
  · next hempty =>
    rw [List.isEmpty_iff.mp hempty]
    rintro c ⟨⟩
  · exact chars_of_pieces fun p hp => (chars_of_hextets? h p hp).2

theorem chars_of_groups6? (h : groups6? s = some gs) :
    s ≠ [] ∧ ∀ c ∈ s, isAddressChar c = true := by
  cases hcut : cutDoubleColon? s with
  | none =>
    rw [groups6?, hcut] at h
    have hpieces := chars_of_hextets? (Option.filter_eq_some_iff.mp h).1
    refine ⟨?_, chars_of_pieces fun p hp => (hpieces p hp).2⟩
    rintro rfl
    exact (hpieces [] (List.mem_singleton_self [])).1 rfl
  | some sides =>
    obtain ⟨left, right⟩ := sides
    obtain ⟨hhead, tail, htail⟩ := sides_of_groups6? hcut h
    have hleft : ∀ c ∈ left, isAddressChar c = true := by
      rcases hhead with rfl | ⟨head, hhead⟩
      · rintro c ⟨⟩
      · refine chars_of_pieces fun p hp c hc => ?_
        have hmem : hextet? p ∈ head.map some :=
          mapM_eq_some_iff.mp hhead ▸ List.mem_map_of_mem hp
        obtain ⟨g, -, hg⟩ := List.mem_map.mp hmem
        exact isAddressChar_of_isHexDigit ((chars_of_hextet? hg.symm).2 c hc)
    rw [eq_of_cutDoubleColon? hcut]
    refine ⟨by simp, fun c hc => ?_⟩
    rw [List.mem_append, List.mem_cons, List.mem_cons] at hc
    rcases hc with hc | rfl | rfl | hc
    · exact hleft c hc
    · rfl
    · rfl
    · exact chars_of_sideGroups? htail c hc

/-- Without a colon there is one piece, of at most two groups. -/
theorem groups6?_of_not_mem (h : ':' ∉ s) : groups6? s = none := by
  have hcut : cutDoubleColon? s = none := by
    cases hcut : cutDoubleColon? s with
    | none => rfl
    | some ab =>
      rw [eq_of_cutDoubleColon? hcut] at h
      exact absurd (by simp) h
  rw [groups6?, hcut]
  show (hextets? (pieces ':' s)).filter _ = none
  rw [pieces_of_not_mem h, hextets?, Option.filter_eq_none_iff]
  intro gs hgs
  split at hgs
  · cases hgs
    simp
  · obtain ⟨g, -, rfl⟩ := Option.map_eq_some_iff.mp hgs
    simp

end

namespace Address
variable {s : List Char} {x : Address} {gs : List Nat}

/-- **An address is not empty and has hexadecimal digits, dots and colons only.** -/
theorem chars_of_parse? (h : parse? s = some x) :
    s ≠ [] ∧ ∀ c ∈ s, isAddressChar c = true := by
  rw [parse?] at h
  split at h
  · next gs hread =>
    obtain ⟨hne, hchars⟩ := chars_of_octets? hread
    refine ⟨hne, fun c hc => ?_⟩
    rcases hchars c hc with rfl | hdigit
    · rfl
    · exact isAddressChar_of_isDigit hdigit
  · obtain ⟨gs, hgs, -⟩ := Option.bind_eq_some_iff.mp h
    exact chars_of_groups6? hgs

theorem parse?_eq_none (h : octets? s = none) (h6 : groups6? s = none) : parse? s = none := by
  rw [parse?, h, h6]
  rfl

end Address

/-! ## Writing -/

/-- Numbers written so can be joined by `sep` and told apart again. -/
structure Joinable (sep : Char) (write : Nat → List Char) : Prop where
  /-- No number is written as nothing. -/
  ne_nil : ∀ n, write n ≠ []
  /-- No number has the separator in it. -/
  not_mem : ∀ n, sep ∉ write n
  /-- Different numbers are written differently. -/
  injective : Function.Injective write

theorem joinable_decimal : Joinable '.' decimal where
  ne_nil _ := Nat.toDigits_ne_nil
  not_mem _ hmem := absurd (isDigit_of_mem_decimal hmem) (by decide)
  injective := decimal_injective

theorem joinable_hexadecimal : Joinable ':' hexadecimal where
  ne_nil _ := Nat.toDigits_ne_nil
  not_mem _ hmem := absurd (isHexDigit_of_mem_hexadecimal hmem) (by decide)
  injective := hexadecimal_injective

namespace Joinable
variable {sep : Char} {write : Nat → List Char} {gs hs : List Nat} {s : List Char}

theorem nil_not_mem (h : Joinable sep write) (gs : List Nat) : [] ∉ gs.map write := by
  intro hmem
  obtain ⟨g, -, hg⟩ := List.mem_map.mp hmem
  exact h.ne_nil g hg

theorem not_mem_of_mem (h : Joinable sep write) {p : List Char} (hp : p ∈ gs.map write) :
    sep ∉ p := by
  obtain ⟨g, -, rfl⟩ := List.mem_map.mp hp
  exact h.not_mem g

theorem pieces_join (h : Joinable sep write) (hgs : gs ≠ []) :
    pieces sep ([sep].intercalate (gs.map write)) = gs.map write :=
  pieces_intercalate (by simpa using hgs) fun _ => h.not_mem_of_mem

theorem map_isPrefix_map_iff (h : Joinable sep write) :
    gs.map write <+: hs.map write ↔ gs <+: hs := by
  rw [List.prefix_iff_eq_take, List.prefix_iff_eq_take, List.length_map, ← List.map_take,
    (List.map_injective_iff.mpr h.injective).eq_iff]

/-- A text begins with joined numbers and a separator when these are its first pieces. -/
theorem isPrefix_iff (h : Joinable sep write) (hgs : gs ≠ []) :
    [sep].intercalate (gs.map write) ++ [sep] <+: s ↔
      gs.map write <+: pieces sep s ∧ gs.length < (pieces sep s).length := by
  rw [intercalate_concat_isPrefix_iff (by simpa using hgs) fun _ => h.not_mem_of_mem,
    List.length_map]

end Joinable

theorem mem_join {sep c : Char} {write : Nat → List Char} {gs : List Nat}
    (h : c ∈ [sep].intercalate (gs.map write)) : c = sep ∨ ∃ g, c ∈ write g := by
  refine (mem_intercalate h).imp_right fun ⟨p, hp, hc⟩ => ?_
  obtain ⟨g, -, rfl⟩ := List.mem_map.mp hp
  exact ⟨g, hc⟩

section
variable {gs : List Nat} {c : Char}

theorem pieces_dotted (hgs : gs ≠ []) : pieces '.' (dotted gs) = gs.map decimal :=
  joinable_decimal.pieces_join hgs

theorem pieces_colonized (hgs : gs ≠ []) : pieces ':' (colonized gs) = gs.map hexadecimal :=
  joinable_hexadecimal.pieces_join hgs

theorem dotted_ne_nil (hgs : gs ≠ []) : dotted gs ≠ [] := by
  intro hnil
  have hpieces := pieces_dotted hgs
  rw [hnil] at hpieces
  exact joinable_decimal.nil_not_mem gs (hpieces ▸ List.mem_singleton_self [])

theorem mem_dotted (h : c ∈ dotted gs) : c = '.' ∨ isDigit c = true :=
  (mem_join h).imp_right fun ⟨_, hc⟩ => isDigit_of_mem_decimal hc

theorem mem_colonized (h : c ∈ colonized gs) : c = ':' ∨ isHexDigit c = true :=
  (mem_join h).imp_right fun ⟨_, hc⟩ => isHexDigit_of_mem_hexadecimal hc

/-- A double colon stands for the zero groups that are left out, if they are several. -/
theorem compressed_eq {start length : Nat} (h : longestZeroRun 0 gs (0, 0) = (start, length)) :
    compressed gs =
      if 1 < length then
        colonized (gs.take start) ++ [':', ':'] ++ colonized (gs.drop (start + length))
      else
        colonized gs := by
  rw [compressed, h]

theorem mem_compressed (h : c ∈ compressed gs) : c = ':' ∨ isHexDigit c = true := by
  rw [compressed_eq rfl] at h
  split at h
  · rw [List.mem_append, List.mem_append, List.mem_cons, List.mem_singleton] at h
    rcases h with (h | h | h) | h
    · exact mem_colonized h
    · exact Or.inl h
    · exact Or.inl h
    · exact mem_colonized h
  · exact mem_colonized h

theorem octet?_decimal {g : Nat} (h : g < 256) : octet? (decimal g) = some g := by
  have hall : ∀ g < 256, octet? (decimal g) = some g := by decide +kernel
  exact hall g h

/-- The four groups of a version 4 address are read as they were written. -/
theorem octets?_dotted (hlength : gs.length = 4) (hgs : ∀ g ∈ gs, g < 256) :
    octets? (dotted gs) = some gs := by
  have hne : gs ≠ [] := List.ne_nil_of_length_pos (by omega)
  rw [octets?, pieces_dotted hne]
  show (if (gs.map decimal).length = 4 then _ else none) = some gs
  rw [if_pos (by rw [List.length_map, hlength]), mapM_eq_some_iff, List.map_map]
  exact List.map_congr_left fun g hg => octet?_decimal (hgs g hg)

end

namespace Address
variable {a : Address} {gs : List Nat}

theorem parse?_dotted (hlength : gs.length = 4) (hgs : ∀ g ∈ gs, g < 256) :
    ∃ x, parse? (dotted gs) = some x ∧ x.family = .v4 ∧ x.groups = gs := by
  obtain ⟨x, hx, hfamily, hgroups⟩ := ofGroups?_eq_some (f := .v4) hlength hgs
  refine ⟨x, ?_, hfamily, hgroups⟩
  rw [parse?, octets?_dotted hlength hgs]
  exact hx

theorem text_of_v4 (h : a.family = .v4) : a.text = dotted a.groups := by
  rw [text, h]

/-- The text of a version 6 address has its groups with a double colon, or starts with a colon
because the address is mapped. -/
theorem text_of_v6 (h : a.family = .v6) :
    a.text = compressed a.groups ∨
      a.text.head? = some ':' ∧ ∃ x y, a.groups = [0, 0, 0, 0, 0, 0xFFFF, x, y] := by
  rw [text, h]
  dsimp only
  split
  · next x y hgroups => exact Or.inr ⟨rfl, x, y, hgroups⟩
  · exact Or.inl rfl

/-- **A beginning that stops after a dot** is that of the version 4 addresses with these
groups and more. -/
theorem dotted_isPrefix_text_iff (hgs : gs ≠ []) :
    dotted gs ++ ['.'] <+: a.text ↔
      a.family = .v4 ∧ gs.length < 4 ∧ a.groups.take gs.length = gs := by
  cases hfamily : a.family with
  | v4 =>
    have hlength : a.groups.length = 4 := by rw [length_groups, hfamily]; rfl
    have hne : a.groups ≠ [] := List.ne_nil_of_length_pos (by omega)
    rw [text_of_v4 hfamily, dotted, joinable_decimal.isPrefix_iff hgs, pieces_dotted hne,
      joinable_decimal.map_isPrefix_map_iff, List.length_map, hlength, List.prefix_iff_eq_take]
    exact ⟨fun ⟨htake, hlt⟩ => ⟨rfl, hlt, htake.symm⟩, fun ⟨_, hlt, htake⟩ => ⟨htake.symm, hlt⟩⟩
  | v6 =>
    refine ⟨fun hbegins => ?_, fun h => by cases h.1⟩
    rcases text_of_v6 hfamily with htext | ⟨hcolon, -⟩
    · have hdot : '.' ∈ compressed a.groups := htext ▸ hbegins.subset (by simp)
      rcases mem_compressed hdot with e | hdigit
      · exact absurd e (by decide)
      · exact absurd hdigit (by decide)
    · -- a dotted text starts with a digit or a dot
      obtain ⟨rest, hrest⟩ := hbegins
      have hhead : ':' ∈ dotted gs ++ ['.'] := by
        refine List.mem_of_mem_head? ?_
        rw [← hrest, List.head?_append_of_ne_nil] at hcolon
        · exact hcolon
        · simp
      rcases List.mem_append.mp hhead with hmem | hmem
      · rcases mem_dotted hmem with e | hdigit
        · exact absurd e (by decide)
        · exact absurd hdigit (by decide)
      · exact absurd hmem (by decide)

end Address

end SplitTest.Net

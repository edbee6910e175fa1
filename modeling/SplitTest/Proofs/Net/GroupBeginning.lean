import SplitTest.Proofs.Net.AllowList

/-!
# Beginnings of version 6 addresses

An entry of groups, each with a colon behind it, is compared with the canonical text of an
address, where the first longest run of two or more zero groups is a double colon.  It
contains an address if and only if the address begins with the groups of the entry and its
double colon, if any, does not begin among them (`Address.colonized_isPrefix_text_iff`).

The groups alone decide when every zero group is followed in the entry by one that is not
zero (`IsSteady`).  Otherwise some address begins with the groups and is not listed: the one
that goes on with a zero and then ones, whose text has its double colon at a zero of the
entry.
-/

namespace SplitTest

namespace Net

open Text

/-! ## Runs of zeros -/

section
variable {gs : List Nat}

theorem zeroRun_nil : zeroRun [] = 0 := rfl

theorem zeroRun_cons (g : Nat) (gs : List Nat) :
    zeroRun (g :: gs) = if g = 0 then zeroRun gs + 1 else 0 := by
  rw [zeroRun, zeroRun, List.takeWhile_cons]
  by_cases hg : g = 0
  · simp [hg]
  · simp [hg]

theorem two_le_zeroRun_iff : 2 ≤ zeroRun gs ↔ gs[0]? = some 0 ∧ gs[1]? = some 0 := by
  match gs with
  | [] => simp [zeroRun]
  | [g] =>
    rw [zeroRun_cons]
    split <;> simp [zeroRun]
  | g :: h :: gs =>
    rw [zeroRun_cons, zeroRun_cons]
    by_cases hg : g = 0 <;> by_cases hh : h = 0 <;> simp [hg, hh]

/-- The longest run is at least as long as the best one so far, and as any run. -/
theorem le_longestZeroRun (i : Nat) (gs : List Nat) (best : Nat × Nat) :
    best.2 ≤ (longestZeroRun i gs best).2 ∧
      ∀ j, zeroRun (gs.drop j) ≤ (longestZeroRun i gs best).2 := by
  induction gs generalizing i best with
  | nil =>
    refine ⟨Nat.le_refl _, fun j => ?_⟩
    rw [List.drop_nil]
    exact Nat.zero_le _
  | cons g gs ih =>
    rw [longestZeroRun]
    split
    · next hlt =>
      obtain ⟨hbest, hruns⟩ := ih (i + 1) (i, zeroRun (g :: gs))
      refine ⟨Nat.le_trans (Nat.le_of_lt hlt) hbest, fun j => ?_⟩
      cases j with
      | zero => exact hbest
      | succ j => exact hruns j
    · next hge =>
      obtain ⟨hbest, hruns⟩ := ih (i + 1) best
      refine ⟨hbest, fun j => ?_⟩
      cases j with
      | zero => exact Nat.le_trans (Nat.le_of_not_lt hge) hbest
      | succ j => exact hruns j

/-- The longest run is the best one so far or one that is there. -/
theorem longestZeroRun_eq (i : Nat) (gs : List Nat) (best : Nat × Nat) :
    longestZeroRun i gs best = best ∨
      ∃ j, longestZeroRun i gs best = (i + j, zeroRun (gs.drop j)) := by
  induction gs generalizing i best with
  | nil => exact Or.inl rfl
  | cons g gs ih =>
    rw [longestZeroRun]
    split
    · rcases ih (i + 1) (i, zeroRun (g :: gs)) with h | ⟨j, h⟩
      · exact Or.inr ⟨0, h⟩
      · exact Or.inr ⟨j + 1, by rw [h, List.drop_succ_cons, Nat.add_right_comm, Nat.add_assoc]⟩
    · rcases ih (i + 1) best with h | ⟨j, h⟩
      · exact Or.inl h
      · exact Or.inr ⟨j + 1, by rw [h, List.drop_succ_cons, Nat.add_right_comm, Nat.add_assoc]⟩

/-- Where a longest run of several groups begins there are two zero groups. -/
theorem zeros_of_longestZeroRun (h : 1 < (longestZeroRun 0 gs (0, 0)).2) :
    gs[(longestZeroRun 0 gs (0, 0)).1]? = some 0 ∧
      gs[(longestZeroRun 0 gs (0, 0)).1 + 1]? = some 0 := by
  rcases longestZeroRun_eq 0 gs (0, 0) with hrun | ⟨j, hrun⟩
  · rw [hrun] at h
    exact absurd h (by decide)
  · rw [hrun, Nat.zero_add] at h ⊢
    have hzeros := two_le_zeroRun_iff.mp h
    rwa [List.getElem?_drop, List.getElem?_drop] at hzeros

end

/-- In the text of the groups a double colon begins among the first `k`. -/
def ShortensBefore (k : Nat) (gs : List Nat) : Prop :=
  1 < (longestZeroRun 0 gs (0, 0)).2 ∧ (longestZeroRun 0 gs (0, 0)).1 < k

instance (k : Nat) (gs : List Nat) : Decidable (ShortensBefore k gs) :=
  inferInstanceAs (Decidable (_ ∧ _))

theorem ShortensBefore.exists_zeros {k : Nat} {gs : List Nat} (h : ShortensBefore k gs) :
    ∃ i < k, gs[i]? = some 0 ∧ gs[i + 1]? = some 0 :=
  ⟨_, h.2, zeros_of_longestZeroRun h.1⟩

/-- Two zero groups side by side make a double colon, if no other two stand at `k` or later. -/
theorem shortensBefore_of_zeros {k i : Nat} {gs : List Nat} (hi : gs[i]? = some 0)
    (hnext : gs[i + 1]? = some 0)
    (hbefore : ∀ j, gs[j]? = some 0 → gs[j + 1]? = some 0 → j < k) : ShortensBefore k gs := by
  have hlength : 1 < (longestZeroRun 0 gs (0, 0)).2 := by
    refine Nat.lt_of_lt_of_le ?_ ((le_longestZeroRun 0 gs (0, 0)).2 i)
    refine two_le_zeroRun_iff.mpr ?_
    rw [List.getElem?_drop, List.getElem?_drop]
    exact ⟨hi, hnext⟩
  obtain ⟨hzero, hsecond⟩ := zeros_of_longestZeroRun hlength
  exact ⟨hlength, hbefore _ hzero hsecond⟩

/-! ## The canonical text -/

section
variable {gs all : List Nat}

/-- A double colon leaves an empty piece behind the groups before it. -/
theorem exists_pieces_doubleColon (gs hs : List Nat) :
    ∃ rest, pieces ':' (colonized gs ++ [':', ':'] ++ colonized hs) =
      gs.map hexadecimal ++ [] :: rest := by
  have hpieces : pieces ':' (colonized gs ++ [':', ':'] ++ colonized hs) =
      pieces ':' (colonized gs) ++ [] :: pieces ':' (colonized hs) := by
    rw [List.append_assoc, List.cons_append, pieces_append_cons]
    rfl
  rw [hpieces]
  cases gs with
  | nil => exact ⟨_, rfl⟩
  | cons g gs => exact ⟨_, by rw [pieces_colonized (List.cons_ne_nil g gs)]⟩

/-- **The text of groups begins with fewer groups** that are its first ones, unless a double
colon begins among them. -/
theorem colonized_isPrefix_compressed_iff (hgs : gs ≠ []) (hlt : gs.length < all.length) :
    colonized gs ++ [':'] <+: compressed all ↔
      all.take gs.length = gs ∧ ¬ShortensBefore gs.length all := by
  have htake : gs <+: all ↔ all.take gs.length = gs := List.prefix_iff_eq_take.trans eq_comm
  rw [colonized, joinable_hexadecimal.isPrefix_iff hgs, compressed_eq rfl, ShortensBefore]
  split
  · next hlength =>
    obtain ⟨rest, hpieces⟩ := exists_pieces_doubleColon
      (all.take (longestZeroRun 0 all (0, 0)).1)
      (all.drop ((longestZeroRun 0 all (0, 0)).1 + (longestZeroRun 0 all (0, 0)).2))
    rw [hpieces, isPrefix_append_cons_iff (joinable_hexadecimal.nil_not_mem gs),
      joinable_hexadecimal.map_isPrefix_map_iff, List.prefix_take_iff, htake]
    constructor
    · rintro ⟨⟨hfirst, hle⟩, -⟩
      exact ⟨hfirst, fun hshort => absurd hshort.2 (Nat.not_lt_of_le hle)⟩
    · rintro ⟨hfirst, hnot⟩
      have hle := Nat.le_of_not_lt fun hstart => hnot ⟨hlength, hstart⟩
      refine ⟨⟨hfirst, hle⟩, ?_⟩
      simp only [List.length_append, List.length_map, List.length_take, List.length_cons]
      omega
  · next hlength =>
    have hne : all ≠ [] := List.ne_nil_of_length_pos (by omega)
    rw [pieces_colonized hne, joinable_hexadecimal.map_isPrefix_map_iff, List.length_map,
      htake]
    exact and_congr_right fun _ => iff_of_true hlt fun hshort => hlength hshort.1

/-- The run of five zeros of a mapped address comes first and is the longest. -/
theorem longestZeroRun_mapped (x y : Nat) :
    longestZeroRun 0 [0, 0, 0, 0, 0, 0xFFFF, x, y] (0, 0) = (0, 5) := by
  by_cases hx : x = 0
  all_goals by_cases hy : y = 0
  all_goals simp [longestZeroRun, zeroRun_cons, zeroRun_nil, hx, hy]

end

namespace Address
variable {a : Address} {gs : List Nat}

/-- **A beginning of groups** is that of the version 6 addresses with these groups, unless a
double colon begins among them. -/
theorem colonized_isPrefix_text_iff (hgs : gs ≠ []) (hlength : gs.length ≤ 7) :
    colonized gs ++ [':'] <+: a.text ↔
      a.family = .v6 ∧ a.groups.take gs.length = gs ∧ ¬ShortensBefore gs.length a.groups := by
  cases hfamily : a.family with
  | v4 =>
    refine ⟨fun hbegins => ?_, fun h => by cases h.1⟩
    rw [text_of_v4 hfamily] at hbegins
    rcases mem_dotted (hbegins.subset (List.mem_append_right _ List.mem_cons_self)) with h | h
    · exact absurd h (by decide)
    · exact absurd h (by decide)
  | v6 =>
    have hcount : a.groups.length = 8 := by rw [length_groups, hfamily]; rfl
    rcases text_of_v6 hfamily with htext | ⟨hcolon, x, y, hmapped⟩
    · rw [htext, colonized_isPrefix_compressed_iff hgs (by omega)]
      exact (and_iff_right rfl).symm
    · constructor
      · -- what begins with a colon has an empty first piece
        obtain ⟨t, ht⟩ := List.head?_eq_some_iff.mp hcolon
        have hpieces : pieces ':' (':' :: t) = [] ++ [] :: pieces ':' t := if_pos rfl
        rw [colonized, joinable_hexadecimal.isPrefix_iff hgs, ht, hpieces,
          isPrefix_append_cons_iff (joinable_hexadecimal.nil_not_mem gs), List.prefix_nil,
          List.map_eq_nil_iff]
        exact fun h => absurd h.1 hgs
      · rintro ⟨-, -, hnot⟩
        refine absurd ?_ hnot
        rw [ShortensBefore, hmapped, longestZeroRun_mapped]
        exact ⟨by decide, List.length_pos_iff.mpr hgs⟩

end Address

/-! ## Entries -/

section
variable {ts : List (List Char)} {gs : List Nat} {s : List Char} {c : Char}

/-- A piece between single colons that is empty is no group. -/
theorem groups6?_of_pieces (h : [] ∈ pieces ':' s) (hcut : cutDoubleColon? s = none) :
    groups6? s = none := by
  rw [groups6?, hcut]
  cases hread : hextets? (pieces ':' s) with
  | none => rfl
  | some gs => exact absurd rfl (chars_of_hextets? hread [] h).1

/-- Texts of which none is empty, each with a colon behind it, are no address. -/
theorem parse?_of_colons (hne : ts ≠ []) (hempty : [] ∉ ts) (hcolon : ∀ t ∈ ts, ':' ∉ t) :
    Address.parse? ([':'].intercalate ts ++ [':']) = none := by
  have hpieces : pieces ':' ([':'].intercalate ts ++ [':']) = ts ++ [[]] := by
    rw [pieces_concat_sep, pieces_intercalate hne hcolon]
  refine Address.parse?_eq_none ?_ (groups6?_of_pieces (by rw [hpieces]; simp) ?_)
  · cases h : octets? ([':'].intercalate ts ++ [':']) with
    | none => rfl
    | some gs =>
      rcases (chars_of_octets? h).2 ':' (by simp) with e | e
      · exact absurd e (by decide)
      · exact absurd e (by decide)
  · cases h : cutDoubleColon? ([':'].intercalate ts ++ [':']) with
    | none => rfl
    | some sides =>
      obtain ⟨left, right⟩ := sides
      -- two colons side by side would leave an empty piece before the last
      rw [eq_of_cutDoubleColon? h, pieces_append_cons, pieces, if_pos rfl] at hpieces
      have hlast := congrArg List.dropLast hpieces
      rw [List.dropLast_concat, List.dropLast_append_of_ne_nil (List.cons_ne_nil _ _),
        List.dropLast_cons_of_ne_nil (pieces_ne_nil ':' right)] at hlast
      exact absurd (hlast ▸ List.mem_append_right _ List.mem_cons_self) hempty

/-- The texts are those of the groups, with letters of either case. -/
def WritesGroups (ts : List (List Char)) (gs : List Nat) : Prop :=
  ts.map (List.map foldAscii) = gs.map hexadecimal

instance (ts : List (List Char)) (gs : List Nat) : Decidable (WritesGroups ts gs) :=
  inferInstanceAs (Decidable (_ = _))

theorem WritesGroups.ne_nil (h : WritesGroups ts gs) (hgs : gs ≠ []) : ts ≠ [] := by
  rintro rfl
  exact hgs (List.map_eq_nil_iff.mp h.symm)

/-- The text of a group is not empty and has hexadecimal digits only. -/
theorem WritesGroups.chars (h : WritesGroups ts gs) {t : List Char} (ht : t ∈ ts) :
    t ≠ [] ∧ ∀ c ∈ t, isHexDigit c = true := by
  have hmem : t.map foldAscii ∈ gs.map hexadecimal := h ▸ List.mem_map_of_mem ht
  constructor
  · rintro rfl
    exact joinable_hexadecimal.nil_not_mem gs hmem
  · intro c hc
    obtain ⟨g, -, hg⟩ := List.mem_map.mp hmem
    rw [← isHexDigit_foldAscii]
    exact isHexDigit_of_mem_hexadecimal (hg ▸ List.mem_map_of_mem hc)

/-- The entry of texts: each with a colon behind it. -/
def colonEntry (ts : List (List Char)) : List Char := ts.flatMap (· ++ [':'])

theorem colonEntry_eq (hts : ts ≠ []) : colonEntry ts = [':'].intercalate ts ++ [':'] := by
  induction ts with
  | nil => exact absurd rfl hts
  | cons t ts ih =>
    rw [colonEntry, List.flatMap_cons]
    cases ts with
    | nil => rw [List.flatMap_nil, List.append_nil, List.intercalate_singleton]
    | cons u ts =>
      rw [List.intercalate_cons_cons, List.append_assoc (t ++ [':']), ← ih (List.cons_ne_nil u ts)]
      rfl

theorem map_foldAscii_colonEntry (ts : List (List Char)) :
    (colonEntry ts).map foldAscii = colonEntry (ts.map (List.map foldAscii)) := by
  rw [colonEntry, colonEntry, List.map_flatMap, List.flatMap_map]
  refine List.flatMap_congr fun t _ => ?_
  rw [List.map_append]
  rfl

theorem WritesGroups.mem_colonEntry (h : WritesGroups ts gs) (hc : c ∈ colonEntry ts) :
    c = ':' ∨ isHexDigit c = true := by
  obtain ⟨t, ht, hct⟩ := List.mem_flatMap.mp hc
  rcases List.mem_append.mp hct with hct | hct
  · exact Or.inr ((h.chars ht).2 c hct)
  · exact Or.inl (List.mem_singleton.mp hct)

theorem WritesGroups.not_mem_colonEntry (h : WritesGroups ts gs) (hcolon : c ≠ ':')
    (hdigit : isHexDigit c = false) : c ∉ colonEntry ts := by
  intro hc
  rw [(h.mem_colonEntry hc).resolve_left hcolon] at hdigit
  cases hdigit

/-- **The rule of an entry of groups** is the beginning that has them in lower case. -/
theorem WritesGroups.parse?_colonEntry (h : WritesGroups ts gs) (hgs : gs ≠ []) :
    Rule.parse? (colonEntry ts) = some (.beginning (colonized gs ++ [':'])) := by
  have hts := h.ne_nil hgs
  have hnot {c : Char} (hcolon : c ≠ ':') (hdigit : isHexDigit c = false) : c ∉ colonEntry ts :=
    h.not_mem_colonEntry hcolon hdigit
  have hnone : Address.parse? (colonEntry ts) = none := by
    rw [colonEntry_eq hts]
    refine parse?_of_colons hts (fun hmem => (h.chars hmem).1 rfl) fun t ht hcolon => ?_
    exact absurd ((h.chars ht).2 ':' hcolon) (by decide)
  rw [Rule.parse?, hnone, cut?_eq_none_iff.mpr (hnot (by decide) (by decide))]
  dsimp only
  rw [cut?_eq_none_iff.mpr (hnot (by decide) (by decide))]
  show Rule.beginning? (colonEntry ts) = _
  have hlast : (colonEntry ts).getLast? = some ':' := by
    rw [colonEntry_eq hts, List.getLast?_concat]
  have hcolon : ':' ∈ colonEntry ts := List.mem_of_getLast? hlast
  have hchars : ((colonEntry ts).all fun c => isHexDigit c || c == ':') = true := by
    refine List.all_eq_true.mpr fun c hc => ?_
    rcases h.mem_colonEntry hc with rfl | hdigit
    · rfl
    · rw [hdigit, Bool.true_or]
  rw [Rule.beginning?, if_neg, if_pos (by rw [hlast, hchars]; rfl), map_foldAscii_colonEntry,
    show ts.map (List.map foldAscii) = gs.map hexadecimal from h,
    colonEntry_eq (by simpa using hgs)]
  · rfl
  · -- a colon is neither a digit nor a dot
    intro hall
    exact absurd (List.all_eq_true.mp hall ':' hcolon) (by decide)

theorem WritesGroups.contains_iff (h : WritesGroups ts gs) (hgs : gs ≠ []) (hlength : gs.length ≤ 7)
    (a : Address) :
    (AllowList.parse (.ofList (colonEntry ts))).contains a = true ↔
      a.family = .v6 ∧ a.groups.take gs.length = gs ∧ ¬ShortensBefore gs.length a.groups := by
  have hnot {c : Char} (hcolon : c ≠ ':') (hdigit : isHexDigit c = false) :
      c ∉ (String.ofList (colonEntry ts)).toList := by
    rw [String.toList_ofList]
    exact h.not_mem_colonEntry hcolon hdigit
  have htrim : trim (String.ofList (colonEntry ts)).toList = colonEntry ts := by
    rw [String.toList_ofList]
    refine trim_of_forall_mem fun c hc => ?_
    rcases h.mem_colonEntry hc with rfl | hdigit
    · rfl
    · exact isBlank_of_isAddressChar (isAddressChar_of_isHexDigit hdigit)
  have hne : colonEntry ts ≠ [] := by
    rw [colonEntry_eq (h.ne_nil hgs)]
    simp
  rw [AllowList.contains_parse (hnot (by decide) (by decide)) (hnot (by decide) (by decide))
    (hnot (by decide) (by decide)) (htrim.symm ▸ hne)
    (htrim.symm ▸ h.parse?_colonEntry hgs), Rule.contains, List.isPrefixOf_iff_prefix,
    Address.colonized_isPrefix_text_iff hgs hlength]

/-! ## Groups that decide alone -/

/-- Every zero group is followed by one that is not zero. -/
def IsSteady (gs : List Nat) : Prop :=
  ∀ i < gs.length, gs[i]? = some 0 → i + 1 < gs.length ∧ gs[i + 1]? ≠ some 0

instance (gs : List Nat) : Decidable (IsSteady gs) :=
  inferInstanceAs (Decidable (∀ i < gs.length, _ → _))

/-- No double colon begins among steady groups. -/
theorem IsSteady.not_shortensBefore (h : IsSteady gs) {all : List Nat}
    (htake : all.take gs.length = gs) : ¬ShortensBefore gs.length all := by
  intro hshort
  obtain ⟨i, hi, hzero, hnext⟩ := hshort.exists_zeros
  have hget {j : Nat} (hj : j < gs.length) : gs[j]? = all[j]? := by
    conv_lhs => rw [← htake]
    exact List.getElem?_take_of_lt hj
  obtain ⟨hlt, hne⟩ := h i hi ((hget hi).trans hzero)
  exact hne ((hget hlt).trans hnext)

/-- **Among groups that are not steady a double colon begins** in the text of an address that
begins with them: the one that goes on with a zero and then ones. -/
theorem exists_shortensBefore (hlength : gs.length ≤ 7) (hgs : ∀ g ∈ gs, g < 65536)
    (hnot : ¬IsSteady gs) :
    ∃ a : Address, a.family = .v6 ∧ a.groups.take gs.length = gs ∧
      ShortensBefore gs.length a.groups := by
  have hcount : (gs ++ 0 :: List.replicate (7 - gs.length) 1).length = 8 := by
    rw [List.length_append, List.length_cons, List.length_replicate]
    omega
  have hall : ∀ g ∈ gs ++ 0 :: List.replicate (7 - gs.length) 1, g < 65536 := by
    intro g hg
    rcases List.mem_append.mp hg with hg | hg
    · exact hgs g hg
    · rcases List.mem_cons.mp hg with rfl | hg
      · decide
      · rw [List.eq_of_mem_replicate hg]
        decide
  obtain ⟨a, -, hfamily, hgroups⟩ := Address.ofGroups?_eq_some (f := .v6) hcount hall
  refine ⟨a, hfamily, ?_, ?_⟩
  · rw [hgroups, List.take_left]
  · simp only [IsSteady, not_forall] at hnot
    obtain ⟨i, hi, hzero, hnext⟩ := hnot
    rw [hgroups]
    refine shortensBefore_of_zeros (i := i) ?_ ?_ ?_
    · rw [List.getElem?_append_left hi, hzero]
    · by_cases hlt : i + 1 < gs.length
      · rw [List.getElem?_append_left hlt]
        by_contra hne
        exact hnext ⟨hlt, hne⟩
      · rw [List.getElem?_append_right (by omega), show i + 1 - gs.length = 0 by omega]
        rfl
    · -- behind the groups no two zeros stand side by side
      intro j _ hj
      by_contra hge
      rw [List.getElem?_append_right (by omega),
        show j + 1 - gs.length = j - gs.length + 1 by omega, List.getElem?_cons_succ] at hj
      exact absurd (List.eq_of_mem_replicate (List.mem_of_getElem? hj)) (by decide)

end

namespace AllowList

/-- **Beginnings of version 6 stop at groups, where no double colon begins.**  An entry of one to
seven groups contains the version 6 addresses that begin with them and whose text has no double
colon that begins among them.  That is every address that begins with the groups if and only if
each zero group is followed by one that is not zero. -/
theorem group_beginning_law {ts : List (List Char)} {gs : List Nat} (h : WritesGroups ts gs)
    (hne : gs ≠ []) (hlength : gs.length ≤ 7) (hgs : ∀ g ∈ gs, g < 65536) :
    (∀ a, (parse (.ofList (colonEntry ts))).contains a = true ↔
      a.family = .v6 ∧ a.groups.take gs.length = gs ∧ ¬ShortensBefore gs.length a.groups) ∧
    ((∀ a, (parse (.ofList (colonEntry ts))).contains a = true ↔
      a.family = .v6 ∧ a.groups.take gs.length = gs) ↔ IsSteady gs) := by
  have hcontains := h.contains_iff hne hlength
  refine ⟨hcontains, fun hdecides => ?_, fun hsteady a => ?_⟩
  · by_contra hnot
    obtain ⟨a, hfamily, htake, hshort⟩ := exists_shortensBefore hlength hgs hnot
    exact ((hcontains a).mp ((hdecides a).mpr ⟨hfamily, htake⟩)).2.2 hshort
  · rw [hcontains a]
    exact ⟨fun ⟨hfamily, htake, _⟩ => ⟨hfamily, htake⟩,
      fun ⟨hfamily, htake⟩ => ⟨hfamily, htake, hsteady.not_shortensBefore htake⟩⟩

/-- The groups `2001:db8` decide alone, in upper case too, and `2001:db8:0` do not. -/
theorem documentation_prefix_listed :
    (WritesGroups ["2001".toList, "DB8".toList] [0x2001, 0xdb8] ∧
      ∀ a, (parse "2001:DB8:").contains a = true ↔
        a.family = .v6 ∧ a.groups.take 2 = [0x2001, 0xdb8]) ∧
    (WritesGroups ["2001".toList, "db8".toList, "0".toList] [0x2001, 0xdb8, 0] ∧
      ¬∀ a, (parse "2001:db8:0:").contains a = true ↔
        a.family = .v6 ∧ a.groups.take 3 = [0x2001, 0xdb8, 0]) :=
  ⟨⟨by decide, (group_beginning_law (show WritesGroups ["2001".toList, "DB8".toList]
      [0x2001, 0xdb8] by decide) (by decide) (by decide) (by decide)).2.mpr (by decide)⟩,
    by decide, fun hdecides => absurd ((group_beginning_law
      (show WritesGroups ["2001".toList, "db8".toList, "0".toList] [0x2001, 0xdb8, 0] by decide)
      (by decide) (by decide) (by decide)).2.mp hdecides) (by decide)⟩

/-- The address `2001:db8::1` begins with the groups `2001:db8:0` and is not on their list. -/
theorem exists_unlisted_beginning :
    ∃ a : Address, Address.parse? "2001:db8::1".toList = some a ∧ a.family = .v6 ∧
      a.groups.take 3 = [0x2001, 0xdb8, 0] ∧ (parse "2001:db8:0:").contains a = false :=
  ⟨⟨.v6, 0x20010db8000000000000000000000001, by decide⟩, by decide +kernel, rfl, by decide +kernel,
    by decide +kernel⟩

end AllowList

end Net

end SplitTest

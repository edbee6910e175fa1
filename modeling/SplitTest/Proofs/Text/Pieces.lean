import SplitTest.Text.Pieces
import Mathlib.Data.List.TakeWhile

/-!
# Cutting and joining

A cut takes the first separator out (`cut?_eq_some_iff`), and a text ends in what stands after
its last one (`eq_append_afterLast`).  Joining the pieces of a text gives the text back, and
cutting what was joined gives the pieces back: all of them if none holds a separator
(`pieces_intercalate`), and so many as were joined if at most the last one does
(`piecesUpTo_intercalate`).
-/

namespace SplitTest.Text
variable {sep : Char} {s : List Char}

/-! ## One cut -/

/-- **A cut is at the first separator.** -/
theorem cut?_eq_some_iff {a b : List Char} :
    cut? sep s = some (a, b) ↔ s = a ++ sep :: b ∧ sep ∉ a := by
  induction s generalizing a with
  | nil => simp [cut?]
  | cons c s ih =>
    rw [cut?]
    by_cases hc : c = sep
    · subst hc
      rw [if_pos rfl, Option.some.injEq, Prod.mk.injEq]
      constructor
      · rintro ⟨rfl, rfl⟩
        exact ⟨rfl, List.not_mem_nil⟩
      · rintro ⟨e, ha⟩
        cases a with
        | nil => exact ⟨rfl, (List.cons.inj e).2⟩
        | cons d a =>
          -- the separator would be the head of what stands before it
          obtain ⟨rfl, -⟩ := List.cons.inj e
          exact absurd List.mem_cons_self ha
    · rw [if_neg hc, Option.map_eq_some_iff]
      constructor
      · rintro ⟨⟨a', b'⟩, hcut, e⟩
        obtain ⟨rfl, rfl⟩ := Prod.mk.inj e
        obtain ⟨rfl, ha⟩ := ih.mp hcut
        exact ⟨rfl, fun hmem => ha ((List.mem_cons.mp hmem).resolve_left (Ne.symm hc))⟩
      · rintro ⟨e, ha⟩
        cases a with
        | nil => exact absurd (List.cons.inj e).1 hc
        | cons d a =>
          obtain ⟨rfl, rfl⟩ := List.cons.inj e
          exact ⟨(a, b), ih.mpr ⟨rfl, fun hmem => ha (List.mem_cons_of_mem c hmem)⟩, rfl⟩

theorem cut?_eq_none_iff : cut? sep s = none ↔ sep ∉ s := by
  induction s with
  | nil => simp [cut?]
  | cons c s ih =>
    rw [cut?]
    by_cases hc : c = sep
    · simp [hc]
    · simp [if_neg hc, ih, Ne.symm hc]

/-- What stands before the first separator. -/
theorem before_append {a : List Char} (ha : sep ∉ a) (b : List Char) :
    before sep (a ++ sep :: b) = a := by
  have hall : ∀ c ∈ a, (c != sep) = true := fun c hc => bne_iff_ne.mpr fun e => ha (e ▸ hc)
  rw [before, List.takeWhile_append_of_pos hall, List.takeWhile_cons_of_neg (by simp),
    List.append_nil]

theorem before_of_not_mem (h : sep ∉ s) : before sep s = s :=
  List.takeWhile_eq_self_iff.mpr fun _ hc => bne_iff_ne.mpr fun e => h (e ▸ hc)

/-- A second separator shows nothing more of what stands before the first. -/
theorem before_append_cons (s t : List Char) : before sep (s ++ sep :: t) = before sep s := by
  by_cases hs : sep ∈ s
  · obtain ⟨a, b, rfl, ha⟩ := List.eq_append_cons_of_mem hs
    rw [List.append_assoc, List.cons_append, before_append ha, before_append ha]
  · rw [before_append hs, before_of_not_mem hs]

/-- What stands after the last `sep`, or all of a text without one. -/
def afterLast (sep : Char) (s : List Char) : List Char := (before sep s.reverse).reverse

theorem sep_not_mem_afterLast (sep : Char) (s : List Char) : sep ∉ afterLast sep s := by
  intro hmem
  exact absurd (List.mem_takeWhile_imp (List.mem_reverse.mp hmem)) (by simp)

/-- **A text ends in what stands after its last separator.** -/
theorem eq_append_afterLast (sep : Char) (s : List Char) :
    s = afterLast sep s ∨ ∃ a, s = a ++ sep :: afterLast sep s := by
  by_cases hs : sep ∈ s
  · obtain ⟨b, a, hrev, hb⟩ := List.eq_append_cons_of_mem (List.mem_reverse.mpr hs)
    refine Or.inr ⟨a.reverse, ?_⟩
    rw [afterLast, hrev, before_append hb, ← List.reverse_reverse s, hrev]
    simp
  · rw [afterLast, before_of_not_mem (mt List.mem_reverse.mp hs), List.reverse_reverse]
    exact Or.inl rfl

/-! ## Pieces between all separators -/

theorem pieces_of_not_mem (h : sep ∉ s) : pieces sep s = [s] := by
  induction s with
  | nil => rfl
  | cons c s ih =>
    have hc : c ≠ sep := fun e => h (e ▸ List.mem_cons_self)
    have hs : sep ∉ s := fun hmem => h (List.mem_cons_of_mem c hmem)
    rw [pieces, if_neg hc, ih hs]
    rfl

/-- **Pieces without separators are cut where they were joined.** -/
theorem pieces_intercalate {ps : List (List Char)} (hne : ps ≠ []) (h : ∀ p ∈ ps, sep ∉ p) :
    pieces sep ([sep].intercalate ps) = ps := by
  induction ps with
  | nil => exact absurd rfl hne
  | cons p ps ih =>
    have hp := pieces_of_not_mem (h p List.mem_cons_self)
    cases ps with
    | nil =>
      rw [List.intercalate_singleton]
      exact hp
    | cons q ps =>
      have hrest := ih (List.cons_ne_nil q ps) fun p' hp' => h p' (List.mem_cons_of_mem p hp')
      rw [List.intercalate_cons_cons, List.append_assoc, List.singleton_append,
        pieces_append_cons, hp, hrest]
      rfl

/-- The pieces are those into which the library splits a list. -/
theorem pieces_eq_splitOn (sep : Char) (s : List Char) : pieces sep s = s.splitOn sep := by
  induction s with
  | nil => exact (List.splitOn_nil sep).symm
  | cons c s ih =>
    rw [pieces, ih, List.splitOn, List.splitOn, List.splitOnP_cons_eq_if_modifyHead]
    simp only [beq_iff_eq]

theorem length_pieces (s : List Char) : (pieces sep s).length = s.count sep + 1 := by
  induction s with
  | nil => rfl
  | cons c s ih =>
    rw [pieces, List.count_cons]
    by_cases hc : c = sep
    · rw [if_pos hc, if_pos (beq_iff_eq.mpr hc), List.length_cons, ih]
    · rw [if_neg hc, if_neg (by simpa using hc), List.length_modifyHead, ih]

/-- Joining puts one separator between any two pieces. -/
theorem count_intercalate {ps : List (List Char)} (hne : ps ≠ []) (h : ∀ p ∈ ps, sep ∉ p) :
    ([sep].intercalate ps).count sep + 1 = ps.length := by
  rw [← length_pieces, pieces_intercalate hne h]

theorem intercalate_append {ps qs : List (List Char)} (hps : ps ≠ []) (hqs : qs ≠ []) :
    [sep].intercalate (ps ++ qs) = [sep].intercalate ps ++ sep :: [sep].intercalate qs := by
  obtain ⟨q, qs, rfl⟩ := List.exists_cons_of_ne_nil hqs
  induction ps with
  | nil => exact absurd rfl hps
  | cons p ps ih =>
    cases ps with
    | nil =>
      rw [List.singleton_append, List.intercalate_cons_cons, List.intercalate_singleton,
        List.append_assoc, List.singleton_append]
    | cons p' ps =>
      rw [List.cons_append, List.cons_append, List.intercalate_cons_cons, ← List.cons_append,
        ih (List.cons_ne_nil p' ps), List.intercalate_cons_cons]
      simp only [List.append_assoc]

/-- What is joined holds what was there and the separator. -/
theorem mem_intercalate {ps : List (List Char)} {c : Char} (h : c ∈ [sep].intercalate ps) :
    c = sep ∨ ∃ p ∈ ps, c ∈ p := by
  induction ps with
  | nil => cases h
  | cons p ps ih =>
    cases ps with
    | nil =>
      rw [List.intercalate_singleton] at h
      exact Or.inr ⟨p, List.mem_singleton_self p, h⟩
    | cons q ps =>
      rw [List.intercalate_cons_cons, List.mem_append, List.mem_append, List.mem_singleton] at h
      rcases h with (h | h) | h
      · exact Or.inr ⟨p, List.mem_cons_self, h⟩
      · exact Or.inl h
      · exact (ih h).imp_right fun ⟨p', hp', hc⟩ => ⟨p', List.mem_cons_of_mem p hp', hc⟩

theorem exists_mem_pieces {c : Char} (h : c ∈ s) (hc : c ≠ sep) : ∃ p ∈ pieces sep s, c ∈ p := by
  rw [← intercalate_pieces sep s] at h
  exact (mem_intercalate h).resolve_left hc

/-- A separator at the end leaves an empty last piece. -/
theorem pieces_concat_sep (s : List Char) : pieces sep (s ++ [sep]) = pieces sep s ++ [[]] :=
  pieces_append_cons sep [] s

/-- **A text begins with joined pieces and a separator** when these are its first pieces and
there are more. -/
theorem intercalate_concat_isPrefix_iff {ps : List (List Char)} (hps : ps ≠ [])
    (h : ∀ p ∈ ps, sep ∉ p) :
    [sep].intercalate ps ++ [sep] <+: s ↔
      ps <+: pieces sep s ∧ ps.length < (pieces sep s).length := by
  constructor
  · rintro ⟨t, rfl⟩
    have hlength := List.length_pos_iff.mpr (pieces_ne_nil sep t)
    rw [List.append_assoc, List.singleton_append, pieces_append_cons, pieces_intercalate hps h,
      List.length_append]
    exact ⟨List.prefix_append _ _, by omega⟩
  · rintro ⟨⟨qs, hqs⟩, hlength⟩
    have hne : qs ≠ [] := by
      rintro rfl
      rw [← hqs, List.append_nil] at hlength
      exact absurd hlength (Nat.lt_irrefl _)
    refine ⟨[sep].intercalate qs, ?_⟩
    rw [List.append_assoc, List.singleton_append, ← intercalate_append hps hne, hqs,
      intercalate_pieces]

/-! ## Pieces up to a number -/

/-- With more than one piece to make, the first cut decides. -/
theorem piecesUpTo_of_cut? {a b : List Char} (h : cut? sep s = some (a, b)) (n : Nat) :
    piecesUpTo sep (n + 2) s = a :: piecesUpTo sep (n + 1) b := by
  rw [piecesUpTo, h]

theorem piecesUpTo_of_not_mem (h : sep ∉ s) (n : Nat) : piecesUpTo sep (n + 1) s = [s] := by
  cases n with
  | zero => rfl
  | succ n => rw [piecesUpTo, cut?_eq_none_iff.mpr h]

/-- There are as many pieces as separators and one more, up to the number. -/
theorem length_piecesUpTo (n : Nat) :
    ∀ s, (piecesUpTo sep n s).length = min n (s.count sep + 1) := by
  induction n with
  | zero => exact fun s => (Nat.zero_min _).symm
  | succ n ih =>
    intro s
    cases n with
    | zero => rw [piecesUpTo, List.length_singleton]; omega
    | succ n =>
      cases hcut : cut? sep s with
      | none =>
        have hmem := cut?_eq_none_iff.mp hcut
        rw [piecesUpTo_of_not_mem hmem, List.count_eq_zero_of_not_mem hmem, List.length_singleton]
        omega
      | some ab =>
        obtain ⟨a, b⟩ := ab
        obtain ⟨rfl, ha⟩ := cut?_eq_some_iff.mp hcut
        rw [piecesUpTo_of_cut? hcut, List.length_cons, ih, List.count_append, List.count_cons_self,
          List.count_eq_zero_of_not_mem ha]
        omega

theorem piecesUpTo_ne_nil (n : Nat) (s : List Char) : piecesUpTo sep (n + 1) s ≠ [] := by
  refine List.ne_nil_of_length_pos ?_
  rw [length_piecesUpTo]
  omega

/-- **The pieces of a text joined are the text**, however many. -/
theorem intercalate_piecesUpTo (n : Nat) :
    ∀ s, [sep].intercalate (piecesUpTo sep (n + 1) s) = s := by
  induction n with
  | zero => exact fun s => List.intercalate_singleton
  | succ n ih =>
    intro s
    cases hcut : cut? sep s with
    | none =>
      rw [piecesUpTo_of_not_mem (cut?_eq_none_iff.mp hcut)]
      exact List.intercalate_singleton
    | some ab =>
      obtain ⟨a, b⟩ := ab
      obtain ⟨rfl, -⟩ := cut?_eq_some_iff.mp hcut
      have hb := ih b
      rw [piecesUpTo_of_cut? hcut]
      obtain ⟨p, ps, hps⟩ := List.exists_cons_of_ne_nil (piecesUpTo_ne_nil n b)
      rw [hps] at hb ⊢
      rw [List.intercalate_cons_cons, hb, List.append_assoc, List.singleton_append]

/-- The first of several pieces is what stands before the first separator. -/
theorem head?_piecesUpTo (n : Nat) (s : List Char) :
    (piecesUpTo sep (n + 2) s).head? = some (before sep s) := by
  cases hcut : cut? sep s with
  | none =>
    have hmem := cut?_eq_none_iff.mp hcut
    rw [piecesUpTo_of_not_mem hmem, before_of_not_mem hmem, List.head?_cons]
  | some ab =>
    obtain ⟨a, b⟩ := ab
    obtain ⟨rfl, ha⟩ := cut?_eq_some_iff.mp hcut
    rw [piecesUpTo_of_cut? hcut, before_append ha, List.head?_cons]

/-- No piece but the last holds a separator. -/
theorem not_mem_of_mem_dropLast_piecesUpTo (n : Nat) :
    ∀ s, ∀ p ∈ (piecesUpTo sep n s).dropLast, sep ∉ p := by
  induction n with
  | zero => rintro s p ⟨⟩
  | succ n ih =>
    intro s p hp
    cases n with
    | zero => cases hp
    | succ n =>
      cases hcut : cut? sep s with
      | none =>
        rw [piecesUpTo_of_not_mem (cut?_eq_none_iff.mp hcut)] at hp
        cases hp
      | some ab =>
        obtain ⟨a, b⟩ := ab
        rw [piecesUpTo_of_cut? hcut, List.dropLast_cons_of_ne_nil (piecesUpTo_ne_nil n b)] at hp
        rcases List.mem_cons.mp hp with rfl | hp'
        · exact (cut?_eq_some_iff.mp hcut).2
        · exact ih b p hp'

/-- **Pieces are cut where they were joined**, if none but the last holds a separator. -/
theorem piecesUpTo_intercalate {ps : List (List Char)} (h : ∀ p ∈ ps.dropLast, sep ∉ p) :
    piecesUpTo sep ps.length ([sep].intercalate ps) = ps := by
  induction ps with
  | nil => rfl
  | cons p ps ih =>
    cases ps with
    | nil =>
      rw [List.intercalate_singleton]
      rfl
    | cons q ps =>
      rw [List.dropLast_cons_cons] at h
      obtain ⟨hp, hrest⟩ := List.forall_mem_cons.mp h
      have hcut : cut? sep ([sep].intercalate (p :: q :: ps)) =
          some (p, [sep].intercalate (q :: ps)) := by
        refine cut?_eq_some_iff.mpr ⟨?_, hp⟩
        rw [List.intercalate_cons_cons, List.append_assoc, List.singleton_append]
      rw [List.length_cons, List.length_cons, piecesUpTo_of_cut? hcut]
      exact congrArg (List.cons p) (ih hrest)

end SplitTest.Text

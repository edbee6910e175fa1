import SplitTest.Text.Lines
import SplitTest.Proofs.Text.Pieces
import Mathlib.Data.List.Forall2

/-!
# Blanks at the ends

Trimming takes the blanks at the ends away and nothing else (`Trims`, `trim_eq_iff`).  So it
keeps what is not blank (`mem_trim`), and whatever blanks stand around a text do not show
(`trim_append_append`).  The carriage return of a line does not show once its pieces are trimmed
(`nonblank_pieces_concat`), and what is read off the lines of a text, and sees neither carriage
returns nor empty lines, can be read off the pieces between line feeds (`flatMap_lines`).  The
lines that are left when blanks are taken away are such (`nonblank_lines`).
-/

namespace SplitTest.Text
variable {s : List Char} {c : Char}

/-- What is not blank is not trimmed. -/
theorem mem_trim (hc : c ∈ s) (hblank : isBlank c = false) : c ∈ trim s := by
  have hdrop {t : List Char} (ht : c ∈ t) : c ∈ t.dropWhile isBlank := by
    rw [← List.takeWhile_append_dropWhile (p := isBlank) (l := t), List.mem_append] at ht
    refine ht.resolve_left fun hmem => ?_
    rw [List.mem_takeWhile_imp hmem] at hblank
    cases hblank
  exact List.mem_reverse.mpr (hdrop (List.mem_reverse.mpr (hdrop hc)))

/-- **A blank at the end does not show.** -/
theorem trim_concat (hc : isBlank c = true) (s : List Char) : trim (s ++ [c]) = trim s := by
  rw [trim, trim, trimStart, trimStart, List.dropWhile_append]
  split
  · next hnil =>
    -- the text is blank altogether
    rw [List.isEmpty_iff.mp hnil, List.dropWhile_cons_of_pos hc]
    rfl
  · rw [trimEnd, List.reverse_append, List.reverse_singleton, List.singleton_append,
      List.dropWhile_cons_of_pos hc, trimEnd]

/-- **Blanks around a text do not show.** -/
theorem trim_append_append {before after : List Char} (hbefore : ∀ c ∈ before, isBlank c = true)
    (hafter : ∀ c ∈ after, isBlank c = true) (s : List Char) :
    trim (before ++ s ++ after) = trim s := by
  induction after generalizing s with
  | nil =>
    rw [List.append_nil, trim, trimStart, List.dropWhile_append_of_pos hbefore]
    rfl
  | cons c after ih =>
    obtain ⟨hc, hrest⟩ := List.forall_mem_cons.mp hafter
    have hnext := ih hrest (s ++ [c])
    rw [trim_concat hc] at hnext
    rw [← hnext]
    simp only [List.append_assoc, List.singleton_append]

/-! ## What is left -/

/-- One text is another without the blanks at its ends. -/
structure Trims (s t : List Char) : Prop where
  /-- Nothing was taken away but blanks at the ends. -/
  ends : ∃ before after, s = before ++ t ++ after ∧ (∀ c ∈ before, isBlank c = true) ∧
    ∀ c ∈ after, isBlank c = true
  /-- What is left does not begin with a blank. -/
  first : ∀ c, t.head? = some c → isBlank c = false
  /-- Nor does it end in one. -/
  last : ∀ c, t.getLast? = some c → isBlank c = false

theorem isBlank_of_head?_dropWhile (h : (s.dropWhile isBlank).head? = some c) :
    isBlank c = false := by
  have hhead := List.head?_dropWhile_not isBlank s
  rw [h] at hhead
  exact hhead

theorem dropWhile_isBlank_eq_self (h : ∀ c, s.head? = some c → isBlank c = false) :
    s.dropWhile isBlank = s := by
  cases s with
  | nil => rfl
  | cons c s => exact List.dropWhile_cons_of_neg (by simp [h c rfl])

theorem trims_trim (s : List Char) : Trims s (trim s) := by
  -- a text ends in the blanks with which its reverse begins
  have hend : trimStart s = trim s ++ ((trimStart s).reverse.takeWhile isBlank).reverse := by
    rw [trim, trimEnd, ← List.reverse_append, List.takeWhile_append_dropWhile,
      List.reverse_reverse]
  refine ⟨⟨s.takeWhile isBlank, ((trimStart s).reverse.takeWhile isBlank).reverse, ?_,
    fun c hc => List.mem_takeWhile_imp hc,
    fun c hc => List.mem_takeWhile_imp (List.mem_reverse.mp hc)⟩, fun c hc => ?_, fun c hc => ?_⟩
  · rw [List.append_assoc, ← hend, trimStart, List.takeWhile_append_dropWhile]
  · refine isBlank_of_head?_dropWhile (s := s) ?_
    show (trimStart s).head? = some c
    rw [hend, List.head?_append, hc, Option.some_or]
  · rw [trim, trimEnd, List.getLast?_reverse] at hc
    exact isBlank_of_head?_dropWhile hc

/-- **Trimming takes the blanks at the ends away**, and nothing else. -/
theorem trim_eq_iff {t : List Char} : trim s = t ↔ Trims s t := by
  constructor
  · rintro rfl
    exact trims_trim s
  · rintro ⟨⟨before, after, rfl, hbefore, hafter⟩, hfirst, hlast⟩
    have hreverse : ∀ c, t.reverse.head? = some c → isBlank c = false := fun c hc =>
      hlast c (by rwa [List.head?_reverse] at hc)
    rw [trim_append_append hbefore hafter, trim, trimStart, dropWhile_isBlank_eq_self hfirst,
      trimEnd, dropWhile_isBlank_eq_self hreverse, List.reverse_reverse]

theorem trim_eq_self_iff :
    trim s = s ↔ (∀ c, s.head? = some c → isBlank c = false) ∧
      ∀ c, s.getLast? = some c → isBlank c = false := by
  rw [trim_eq_iff]
  exact ⟨fun h => ⟨h.first, h.last⟩,
    fun ⟨hfirst, hlast⟩ => ⟨⟨[], [], by simp, nofun, nofun⟩, hfirst, hlast⟩⟩

theorem trim_of_forall_mem (h : ∀ c ∈ s, isBlank c = false) : trim s = s :=
  trim_eq_self_iff.mpr
    ⟨fun c hc => h c (List.mem_of_head? hc), fun c hc => h c (List.mem_of_getLast? hc)⟩

@[simp] theorem trim_trim (s : List Char) : trim (trim s) = trim s :=
  trim_eq_self_iff.mpr ⟨(trims_trim s).first, (trims_trim s).last⟩

theorem trim_eq_nil_iff : trim s = [] ↔ ∀ c ∈ s, isBlank c = true := by
  constructor
  · intro h
    obtain ⟨before, after, hs, hbefore, hafter⟩ := (trims_trim s).ends
    rw [hs, h, List.append_nil]
    exact fun c hc => (List.mem_append.mp hc).elim (hbefore c) (hafter c)
  · intro h
    exact trim_eq_iff.mpr ⟨⟨s, [], by simp, h, nofun⟩, nofun, nofun⟩

theorem trim_sublist (s : List Char) : (trim s).Sublist s := by
  obtain ⟨before, after, hs, -, -⟩ := (trims_trim s).ends
  conv_rhs => rw [hs]
  exact (List.sublist_append_right before _).trans (List.sublist_append_left _ after)

/-! ## Pieces and lines -/

/-- The pieces that are left are those that are not blank, trimmed. -/
theorem nonblank_eq (ps : List (List Char)) :
    nonblank ps = (ps.filter fun p => !p.all isBlank).map trim := by
  have hblank : ∀ p : List Char, (trim p).isEmpty = p.all isBlank := fun p => by
    rw [Bool.eq_iff_iff, List.isEmpty_iff, trim_eq_nil_iff, List.all_eq_true]
  rw [nonblank, List.filter_map]
  exact congrArg (List.map trim) (List.filter_congr fun p _ => congrArg not (hblank p))

theorem trims_nonblank (ps : List (List Char)) :
    List.Forall₂ Trims (ps.filter fun p => !p.all isBlank) (nonblank ps) := by
  rw [nonblank_eq, List.forall₂_map_right_iff, List.forall₂_same]
  exact fun p _ => trims_trim p

theorem nonblank_append (ps qs : List (List Char)) :
    nonblank (ps ++ qs) = nonblank ps ++ nonblank qs := by
  rw [nonblank, List.map_append, List.filter_append, nonblank, nonblank]

/-- A blank at the end of a text shows in none of its pieces. -/
theorem nonblank_pieces_concat {sep : Char} (hc : isBlank c = true) (hsep : c ≠ sep)
    (s : List Char) : nonblank (pieces sep (s ++ [c])) = nonblank (pieces sep s) := by
  have hone {t : List Char} (ht : sep ∉ t) :
      nonblank (pieces sep (t ++ [c])) = nonblank (pieces sep t) := by
    have htc : sep ∉ t ++ [c] := by simpa [ht] using hsep.symm
    rw [pieces_of_not_mem htc, pieces_of_not_mem ht, nonblank, List.map_singleton, trim_concat hc]
    rfl
  -- the last piece is the one that ends in the blank
  have hlast := hone (sep_not_mem_afterLast _ s)
  rcases eq_append_afterLast sep s with hs | ⟨a, hs⟩
  · rwa [← hs] at hlast
  · rw [hs, List.append_assoc, List.cons_append, pieces_append_cons, pieces_append_cons,
      nonblank_append, nonblank_append, hlast]

/-- **Lines can be read off the pieces** between line feeds, by what sees neither the carriage
return of a line nor an empty line. -/
theorem flatMap_lines {α : Type} {f : List Char → List α} (hnil : f [] = [])
    (hreturn : ∀ p, f (p ++ ['\r']) = f p) (s : List Char) :
    (lines s).flatMap f = (pieces '\n' s).flatMap f := by
  have hdrop (p : List Char) : f (dropReturn p) = f p := by
    rw [dropReturn]
    split
    · next hlast =>
      obtain ⟨q, rfl⟩ := List.getLast?_eq_some_iff.mp hlast
      rw [List.dropLast_concat, hreturn]
    · rfl
  rw [lines]
  induction pieces '\n' s with
  | nil => rfl
  | cons p ps ih =>
    cases ps with
    | nil =>
      rw [linesOfPieces]
      split
      · next hempty => rw [List.isEmpty_iff.mp hempty, List.flatMap_singleton, hnil]; rfl
      · rfl
    | cons q ps =>
      show f (dropReturn p) ++ (linesOfPieces (q :: ps)).flatMap f = f p ++ (q :: ps).flatMap f
      rw [hdrop, ih]

/-- **Lines that are trimmed are pieces between line feeds that are trimmed.** -/
theorem nonblank_lines (s : List Char) : nonblank (lines s) = nonblank (pieces '\n' s) := by
  have hflatMap : ∀ ps : List (List Char), nonblank ps = ps.flatMap fun p => nonblank [p] := by
    intro ps
    induction ps with
    | nil => rfl
    | cons p ps ih => rw [List.flatMap_cons, ← ih, ← nonblank_append, List.singleton_append]
  rw [hflatMap, hflatMap (pieces '\n' s)]
  refine flatMap_lines rfl (fun p => ?_) s
  rw [nonblank, List.map_singleton, trim_concat (by decide)]
  rfl

end SplitTest.Text

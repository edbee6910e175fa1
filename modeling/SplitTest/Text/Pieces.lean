/-!
# Cutting text at a separator

`cut?` splits a text at its first separator.  `pieces` splits at every
separator, so a text without one is a single piece and the pieces joined by the
separator are the text again.  `piecesUpTo n` makes at most `n` pieces, the last
of which keeps its separators.
-/

namespace SplitTest.Text

/-- What stands before and after the first `sep`. -/
def cut? (sep : Char) : List Char → Option (List Char × List Char)
  | [] => none
  | c :: s => if c = sep then some ([], s) else (cut? sep s).map fun (a, b) => (c :: a, b)

/-- The text before the first `sep`, or all of it. -/
def before (sep : Char) (s : List Char) : List Char := s.takeWhile (· != sep)

/-- The text cut at every `sep`; never empty. -/
def pieces (sep : Char) : List Char → List (List Char)
  | [] => [[]]
  | c :: s => if c = sep then [] :: pieces sep s else (pieces sep s).modifyHead (c :: ·)

theorem pieces_ne_nil (sep : Char) : ∀ s : List Char, pieces sep s ≠ []
  | [] => by simp [pieces]
  | c :: s => by
    unfold pieces
    split
    · simp
    · obtain ⟨p, ps, hp⟩ := List.exists_cons_of_ne_nil (pieces_ne_nil sep s)
      simp [hp]

theorem intercalate_pieces (sep : Char) : ∀ s : List Char, [sep].intercalate (pieces sep s) = s
  | [] => by simp [pieces, List.intercalate]
  | c :: s => by
    obtain ⟨p, ps, hp⟩ := List.exists_cons_of_ne_nil (pieces_ne_nil sep s)
    have ih := intercalate_pieces sep s
    rw [hp] at ih
    by_cases hc : c = sep
    · simp [pieces, hc, hp, List.intercalate] at ih ⊢
      exact ih
    · cases ps <;> simp [pieces, hc, hp, List.intercalate] at ih ⊢ <;> exact ih

theorem not_mem_of_mem_pieces {sep : Char} :
    ∀ {s p : List Char}, p ∈ pieces sep s → sep ∉ p
  | [], p, h => by simp [pieces] at h; simp [h]
  | c :: s, p, h => by
    obtain ⟨q, qs, hq⟩ := List.exists_cons_of_ne_nil (pieces_ne_nil sep s)
    have ih : ∀ p ∈ pieces sep s, sep ∉ p := fun p hp => not_mem_of_mem_pieces hp
    rw [hq] at ih
    by_cases hc : c = sep
    · simp only [pieces, if_pos hc, hq, List.mem_cons] at h
      rcases h with rfl | h
      · simp
      · exact ih p (List.mem_cons.2 h)
    · simp only [pieces, if_neg hc, hq, List.modifyHead_cons, List.mem_cons] at h
      rcases h with rfl | h
      · simp [Ne.symm hc, ih q (List.mem_cons_self)]
      · exact ih p (List.mem_cons_of_mem _ h)

theorem pieces_append_cons (sep : Char) (t : List Char) :
    ∀ s : List Char, pieces sep (s ++ sep :: t) = pieces sep s ++ pieces sep t
  | [] => by simp [pieces]
  | c :: s => by
    obtain ⟨q, qs, hq⟩ := List.exists_cons_of_ne_nil (pieces_ne_nil sep s)
    by_cases hc : c = sep
    · simp [pieces, hc, pieces_append_cons sep t s]
    · simp [pieces, hc, pieces_append_cons sep t s, hq]

/-- The text cut at its first `n - 1` separators. -/
def piecesUpTo (sep : Char) : Nat → List Char → List (List Char)
  | 0, _ => []
  | 1, s => [s]
  | n + 2, s =>
    match cut? sep s with
    | none => [s]
    | some (a, b) => a :: piecesUpTo sep (n + 1) b

end SplitTest.Text

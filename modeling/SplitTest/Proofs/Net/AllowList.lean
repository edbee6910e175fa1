import SplitTest.Net.AllowList
import SplitTest.Proofs.Net.AddressText
import SplitTest.Proofs.Text.Blank

/-!
# Lists of one entry

A text without commas, number signs and line feeds is one entry, trimmed
(`AllowList.entries_of_not_mem`), and its list contains what the rule of that entry contains
(`AllowList.contains_parse`).
-/

namespace SplitTest

namespace Text
variable {c : Char}

theorem isBlank_of_digit? {base d : Nat} (h : digit? base c = some d) : isBlank c = false := by
  obtain ⟨h, -⟩ := Option.filter_eq_some_iff.mp h
  have hcode {lo hi : Char} (hlo : 48 ≤ lo.toNat) (hhi : hi.toNat ≤ 122)
      (hc : lo ≤ c ∧ c ≤ hi) : 48 ≤ c.toNat ∧ c.toNat ≤ 122 :=
    ⟨Nat.le_trans hlo hc.1, Nat.le_trans hc.2 hhi⟩
  have hbetween : 48 ≤ c.toNat ∧ c.toNat ≤ 122 := by
    split at h
    · next hc => exact hcode (by decide) (by decide) hc
    · split at h
      · next hc => exact hcode (by decide) (by decide) hc
      · split at h
        · next hc => exact hcode (by decide) (by decide) hc
        · cases h
  simp [isBlank]
  omega

end Text

namespace Net

open Text

theorem isBlank_of_isAddressChar {c : Char} (h : isAddressChar c = true) : isBlank c = false := by
  simp only [isAddressChar, Bool.or_eq_true, beq_iff_eq, isHexDigit_eq_true_iff] at h
  rcases h with (⟨d, hd⟩ | rfl) | rfl
  · exact isBlank_of_digit? hd
  · rfl
  · rfl

theorem isBlank_of_mem_decimal {c : Char} {n : Nat} (h : c ∈ decimal n) : isBlank c = false :=
  isBlank_of_isAddressChar (isAddressChar_of_isDigit (isDigit_of_mem_decimal h))

theorem isBlank_of_mem_dotted {c : Char} {gs : List Nat} (h : c ∈ dotted gs) :
    isBlank c = false := by
  rcases mem_dotted h with rfl | hdigit
  · rfl
  · exact isBlank_of_isAddressChar (isAddressChar_of_isDigit hdigit)

theorem Address.parse?_eq_none_of_mem {s : List Char} {c : Char} (hc : c ∈ s)
    (hnot : isAddressChar c = false) : parse? s = none := by
  cases h : parse? s with
  | none => rfl
  | some x =>
    rw [(chars_of_parse? h).2 c hc] at hnot
    cases hnot

namespace AllowList

/-- A text with none of the signs that end an entry is one. -/
theorem entries_of_not_mem {s : List Char} (hline : '\n' ∉ s) (hcomma : ',' ∉ s)
    (hcomment : '#' ∉ s) (hne : trim s ≠ []) : entries s = [trim s] := by
  have hs : s.isEmpty = false := by
    cases s with
    | nil => exact absurd rfl hne
    | cons c s => rfl
  rw [entries, lines, pieces_of_not_mem hline, linesOfPieces, hs]
  show nonblank (pieces ',' (before '#' s)) ++ [] = _
  rw [before_of_not_mem hcomment, pieces_of_not_mem hcomma, List.append_nil, nonblank]
  exact List.filter_eq_self.mpr (by simpa [List.isEmpty_iff] using hne)

/-- **A list of one entry contains what the entry stands for.** -/
theorem contains_parse {entry : String} {r : Rule} (hline : '\n' ∉ entry.toList)
    (hcomma : ',' ∉ entry.toList) (hcomment : '#' ∉ entry.toList)
    (hne : trim entry.toList ≠ []) (hr : Rule.parse? (trim entry.toList) = some r) (a : Address) :
    (parse entry).contains a = r.contains a := by
  rw [contains, parse, entries_of_not_mem hline hcomma hcomment hne]
  simp [hr]

end AllowList

end Net

end SplitTest

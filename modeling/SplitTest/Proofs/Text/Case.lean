import SplitTest.Text.Ascii
import SplitTest.Text.Upper
import Mathlib.Data.List.Basic

/-!
# Texts in upper case

Upper case and folding each undo the other on ASCII (`foldedAscii_uppercased`,
`uppercased_foldedAscii`), so two ASCII texts have one upper case exactly if they agree up to the
case of their letters (`uppercased_eq_iff`).  Beyond ASCII that is not so: the dotless i has the
upper case of the letter i, and folding leaves it alone.
-/

namespace SplitTest.Text
variable {c : Char} {s t : String}

/-- What holds of the first 128 code points holds of every ASCII character. -/
theorem of_ascii (P : Char → Prop) (h : ∀ n < 128, P (Char.ofNat n)) (hc : c.toNat < 128) :
    P c := by
  have hone := h c.toNat hc
  rwa [Char.ofNat_toNat] at hone

theorem map_foldAscii_upper : c.toNat < 128 → (upper c).map foldAscii = [foldAscii c] :=
  of_ascii (fun c => (upper c).map foldAscii = [foldAscii c]) (by decide)

theorem upper_foldAscii : c.toNat < 128 → upper (foldAscii c) = upper c :=
  of_ascii (fun c => upper (foldAscii c) = upper c) (by decide)

theorem foldedAscii_uppercased (hs : ∀ c ∈ s.toList, c.toNat < 128) :
    foldedAscii (uppercased s) = foldedAscii s := by
  have hfold : (s.toList.flatMap upper).map foldAscii = s.toList.map foldAscii := by
    rw [List.map_flatMap, List.flatMap_congr fun c hc => map_foldAscii_upper (hs c hc),
      List.map_eq_flatMap]
  rw [foldedAscii, uppercased, String.toList_ofList, hfold, foldedAscii]

theorem uppercased_foldedAscii (hs : ∀ c ∈ s.toList, c.toNat < 128) :
    uppercased (foldedAscii s) = uppercased s := by
  have hupper : (s.toList.map foldAscii).flatMap upper = s.toList.flatMap upper := by
    rw [List.flatMap_map]
    exact List.flatMap_congr fun c hc => upper_foldAscii (hs c hc)
  rw [uppercased, foldedAscii, String.toList_ofList, hupper, uppercased]

/-- **Two ASCII texts have one upper case exactly if they agree up to case.** -/
theorem uppercased_eq_iff (hs : ∀ c ∈ s.toList, c.toNat < 128)
    (ht : ∀ c ∈ t.toList, c.toNat < 128) :
    uppercased s = uppercased t ↔ equalFolded s t = true := by
  rw [equalFolded, beq_iff_eq]
  constructor
  · intro h
    rw [← foldedAscii_uppercased hs, h, foldedAscii_uppercased ht]
  · intro h
    rw [← uppercased_foldedAscii hs, h, uppercased_foldedAscii ht]

theorem toNat_lt_of_isAlphanumeric (h : isAlphanumeric c = true) : c.toNat < 128 := by
  simp only [isAlphanumeric, Bool.or_eq_true, Bool.and_eq_true, decide_eq_true_eq, Char.le_def,
    UInt32.le_iff_toNat_le] at h
  show c.val.toNat < 128
  rcases h with (⟨-, h⟩ | ⟨-, h⟩) | ⟨-, h⟩
  · exact Nat.lt_of_le_of_lt h (by decide)
  · exact Nat.lt_of_le_of_lt h (by decide)
  · exact Nat.lt_of_le_of_lt h (by decide)

end SplitTest.Text

import SplitTest.CommandList
import SplitTest.Proofs.Text.Blank

/-!
# Command lines as text

The lines that are read off a text are plain: they are neither blank nor padded, and hold no
line feed (`IsPlain`).  Reading goes line by line, so a text that is put together from two is
read as the lines of the one and then those of the other, whichever way the line between them
is ended (`CommandList.lines_append`).  Plain lines that are joined are therefore read as the
same lines (`CommandList.ofAuthoringText_join`), since nothing that reading leaves out or cuts
off is there.
-/

namespace SplitTest

open SplitTest.Text

/-- A line is neither blank nor padded, and holds no line feed. -/
def IsPlain (line : String) : Prop :=
  line ≠ "" ∧ Text.trimmed line = line ∧ '\n' ∉ line.toList

instance (line : String) : Decidable (IsPlain line) :=
  inferInstanceAs (Decidable (_ ∧ _ ∧ _))

/-- A text ends a line, with or without a carriage return. -/
def IsLineEnd (newline : String) : Prop := newline = "\n" ∨ newline = "\r\n"

theorem trimmed_eq_self_iff {line : String} :
    trimmed line = line ↔ trim line.toList = line.toList := by
  rw [trimmed, ← String.toList_inj, String.toList_ofList]

namespace CommandList

/-- **Reading cuts at line feeds**, keeps what is not blank and trims it. -/
theorem lines_ofAuthoringText (t : String) :
    (ofAuthoringText t).lines = (nonblank (pieces '\n' t.toList)).map String.ofList := by
  rw [ofAuthoringText, nonblank_lines]

/-- **Texts that are put together are read one after the other.** -/
theorem lines_append {newline : String} (hn : IsLineEnd newline) (a b : String) :
    (ofAuthoringText (a ++ newline ++ b)).lines =
      (ofAuthoringText a).lines ++ (ofAuthoringText b).lines := by
  simp only [lines_ofAuthoringText, ← List.map_append]
  refine congrArg (List.map String.ofList) ?_
  rcases hn with rfl | rfl
  · have hchars : (a ++ "\n" ++ b).toList = a.toList ++ '\n' :: b.toList := by simp
    rw [hchars, pieces_append_cons, nonblank_append]
  · -- the carriage return is a blank at the end of the first text
    have hchars : (a ++ "\r\n" ++ b).toList = (a.toList ++ ['\r']) ++ '\n' :: b.toList := by simp
    rw [hchars, pieces_append_cons, nonblank_append,
      nonblank_pieces_concat (by decide) (by decide)]

/-- What is read is plain. -/
theorem isPlain_of_mem {t line : String} (h : line ∈ (ofAuthoringText t).lines) :
    IsPlain line := by
  rw [lines_ofAuthoringText, nonblank_eq] at h
  obtain ⟨p, hp, rfl⟩ := List.mem_map.mp h
  obtain ⟨q, hq, rfl⟩ := List.mem_map.mp hp
  obtain ⟨hpiece, hink⟩ := List.mem_filter.mp hq
  refine ⟨fun hempty => ?_, ?_, fun hfeed => ?_⟩
  · rw [String.ofList_eq_empty_iff, trim_eq_nil_iff, ← List.all_eq_true] at hempty
    rw [hempty] at hink
    cases hink
  · rw [trimmed_eq_self_iff, String.toList_ofList, trim_trim]
  · rw [String.toList_ofList] at hfeed
    exact not_mem_of_mem_pieces hpiece ((trim_sublist q).subset hfeed)

/-- A plain line is read as it is. -/
theorem lines_of_isPlain {line : String} (h : IsPlain line) :
    (ofAuthoringText line).lines = [line] := by
  obtain ⟨hne, htrim, hfeed⟩ := h
  rw [trimmed_eq_self_iff] at htrim
  have hnil : line.toList ≠ [] := fun hnil => hne (String.toList_eq_nil_iff.mp hnil)
  have hkept : nonblank [line.toList] = [line.toList] := by
    rw [nonblank, List.map_singleton, htrim]
    exact List.filter_eq_self.mpr fun p hp => by simpa [List.mem_singleton.mp hp] using hne
  rw [lines_ofAuthoringText, pieces_of_not_mem hfeed, hkept, List.map_singleton,
    String.ofList_toList]

/-- **Plain lines that are joined are read as the same lines**, whichever way they are ended. -/
theorem ofAuthoringText_join {newline : String} (hn : IsLineEnd newline) {lines : List String}
    (h : ∀ line ∈ lines, IsPlain line) :
    ofAuthoringText (newline.intercalate lines) = ⟨lines⟩ := by
  have hlines : (ofAuthoringText (newline.intercalate lines)).lines = lines := by
    induction lines with
    | nil => rw [String.intercalate_nil]; rfl
    | cons line rest ih =>
      obtain ⟨hline, hrest⟩ := List.forall_mem_cons.mp h
      cases rest with
      | nil => rw [String.intercalate_singleton, lines_of_isPlain hline]
      | cons next rest =>
        rw [String.intercalate_cons_cons, lines_append hn, lines_of_isPlain hline, ih hrest,
          List.singleton_append]
  exact congrArg CommandList.mk hlines

/-- **What was read, joined, is read again as it was.** -/
theorem ofAuthoringText_rejoin {newline : String} (hn : IsLineEnd newline) (t : String) :
    ofAuthoringText (newline.intercalate (ofAuthoringText t).lines) = ofAuthoringText t :=
  ofAuthoringText_join hn fun _ => isPlain_of_mem

end CommandList

end SplitTest

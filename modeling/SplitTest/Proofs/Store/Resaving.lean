import SplitTest.Proofs.Store.AuditTrail
import SplitTest.Proofs.Text.Lines
import SplitTest.Proofs.UserSet

/-!
# Texts of commands and conditions saved again

What is read off an operator's text are the lines between line feeds that are not blank, each
without the blanks at its ends (`ReadsAs`).  A form shows the lines of a condition joined, and
saving the form as it is changes nothing (`Manager.Serves.resaved`).  That is not so of every
stored list of commands, but it is of those that a manager wrote, since these were read off a
text themselves.
-/

namespace SplitTest

open SplitTest.Text

/-- **What a text of commands is read as.** -/
structure ReadsAs (t : String) (l : CommandList) : Prop where
  /-- The lines of the text that are not blank, in order, each without the blanks at its ends. -/
  lines : List.Forall₂ (fun s line => Trims s line.toList)
    ((Text.lines t.toList).filter fun s => !s.all isBlank) l.lines
  /-- The same is left of what stands between line feeds, whatever carriage returns are there. -/
  pieces : List.Forall₂ (fun s line => Trims s line.toList)
    ((t.toList.splitOn '\n').filter fun s => !s.all isBlank) l.lines
  /-- Lines are not empty, hold no line feed, and neither begin nor end with a blank. -/
  plain : ∀ line ∈ l.lines, line ≠ "" ∧ '\n' ∉ line.toList ∧
    (∀ c, line.toList.head? = some c → isBlank c = false) ∧
    ∀ c, line.toList.getLast? = some c → isBlank c = false

theorem CommandList.readsAs (t : String) : ReadsAs t (ofAuthoringText t) := by
  have htrims (ps : List (List Char)) : List.Forall₂ (fun s line => Trims s line.toList)
      (ps.filter fun s => !s.all isBlank) ((nonblank ps).map String.ofList) := by
    rw [List.forall₂_map_right_iff]
    simp only [String.toList_ofList]
    exact trims_nonblank ps
  refine ⟨htrims (Text.lines t.toList), ?_, fun line hline => ?_⟩
  · rw [lines_ofAuthoringText, ← pieces_eq_splitOn]
    exact htrims _
  · obtain ⟨hne, htrim, hfeed⟩ := isPlain_of_mem hline
    exact ⟨hne, hfeed, trim_eq_self_iff.mp (trimmed_eq_self_iff.mp htrim)⟩

/-- What a form shows of a condition, its lines ended in one of the two ways. -/
def Condition.form (z : Condition) (newline : String) : Store.ConditionInput where
  condset := z.condset
  allowList := z.allowList.source
  commands := newline.intercalate z.commands.lines
  weight := z.weight
  users := z.users.ids

namespace Store

/-- **A condition that an operator gave is given again by its form.** -/
theorem ConditionInput.condition_form {newline : String} (hn : IsLineEnd newline)
    (input : ConditionInput) (id : ConditionId) (owner : ExperimentId) :
    ((input.condition id owner).form newline).condition id owner = input.condition id owner := by
  simp only [condition, Condition.form, CommandList.ofAuthoringText_rejoin hn, UserSet.ofList_ids,
    Net.AllowList.parse]

namespace Tables.Managed
variable {t : Tables} {y y' : Listing} {z z' : Condition}

/-- A condition is of the experiment under which it is listed. -/
theorem experimentId_eq (hy : y ∈ t.catalog.listings) (hz : z ∈ y.conditions) :
    z.experimentId = y.experiment.id := by
  obtain ⟨r, -, rfl, howner⟩ := exists_record hy hz
  exact howner

/-- Listed conditions of one number are the same. -/
theorem condition_eq (h : t.Managed) (hy : y ∈ t.catalog.listings) (hz : z ∈ y.conditions)
    (hy' : y' ∈ t.catalog.listings) (hz' : z' ∈ y'.conditions) (hid : z.id = z'.id) : z = z' := by
  obtain ⟨r, hr, rfl, -⟩ := exists_record hy hz
  obtain ⟨r', hr', rfl, -⟩ := exists_record hy' hz'
  rw [List.inj_on_of_nodup_map h.conditionIds hr hr' hid]

theorem numbered?_of_mem (h : t.Managed) (hy : y ∈ t.catalog.listings) :
    t.catalog.numbered? y.experiment.id = some y := by
  obtain ⟨x, hx, rfl⟩ := List.mem_map.mp hy
  have hfound : t.experiment? (t.listing x).experiment.id = some x :=
    h.experiment?_eq_some_iff.mpr ⟨hx, rfl⟩
  rw [h.catalog_numbered?, hfound, Option.map_some]

theorem condition?_of_mem (h : t.Managed) (hy : y ∈ t.catalog.listings) (hz : z ∈ y.conditions) :
    y.condition? z.condset = some z := by
  obtain ⟨r, hr, rfl, howner⟩ := exists_record hy hz
  obtain ⟨x, -, rfl⟩ := List.mem_map.mp hy
  have hfound : t.conditionNamed? x.id r.content.condset = some r :=
    h.conditionNamed?_eq_some_iff.mpr ⟨hr, howner, rfl⟩
  rw [listing_condition?, hfound, Option.map_some]

/-- **A condition that is replaced by itself leaves the catalog as it is.** -/
theorem edit_self (h : t.Managed) (hy : y ∈ t.catalog.listings) (hz : z ∈ y.conditions)
    (id : ExperimentId) :
    t.catalog.edit id (fun x => { x with conditions := x.conditions.map fun w =>
      if w.id = z.id then z else w }) = t.catalog := by
  have hsame : ∀ x ∈ t.catalog.listings,
      (x.conditions.map fun w => if w.id = z.id then z else w) = x.conditions := by
    intro x hx
    refine (List.map_congr_left fun w hw => ?_).trans (List.map_id _)
    split
    · next hid => exact (h.condition_eq hx hw hy hz hid).symm
    · rfl
  have hlistings : (t.catalog.listings.map fun x => if x.experiment.id = id then
      { x with conditions := x.conditions.map fun w => if w.id = z.id then z else w } else x) =
        t.catalog.listings := by
    refine (List.map_congr_left fun x hx => ?_).trans (List.map_id _)
    rw [hsame x hx]
    exact ite_self x
  exact congrArg (fun ls => (⟨ls, t.catalog.lastExperiment, t.catalog.lastCondition⟩ : Catalog))
    hlistings

/-- Saving a form as it is does nothing to a catalog that was written by an operator. -/
theorem step_form (h : t.Managed) {ws : List ConditionWrite} (hw : t.catalog.Written ws)
    {newline : String} (hn : IsLineEnd newline) (hy : y ∈ t.catalog.listings)
    (hz : z ∈ y.conditions) :
    t.catalog.step (.updateCondition y.experiment.id z.condset (z.form newline)) =
      .ok (.done, t.catalog) := by
  have hform : (z.form newline).condition z.id y.experiment.id = z := by
    have howner := experimentId_eq hy hz
    obtain ⟨w, -, rfl⟩ := hw y hy z hz
    rw [← howner]
    exact w.input.condition_form hn w.id w.owner.id
  have hrename : ¬((z.form newline).condset ≠ z.condset ∧
      (y.condition? (z.form newline).condset).isSome = true) := fun hren => hren.1 rfl
  simp only [Catalog.step, Catalog.updateCondition, h.numbered?_of_mem hy,
    h.condition?_of_mem hy hz, if_neg hrename, Except.map, hform, h.edit_self hy hz]

end Tables.Managed

/-- **Saving a condition again as a form shows it** is done, and leaves every experiment and
condition as it is. -/
theorem Manager.Serves.resaved {m : Manager} (h : m.Serves m.tables.catalog)
    {ws : List ConditionWrite} (hw : m.tables.catalog.Written ws) {newline : String}
    (hn : IsLineEnd newline) {y : Listing} (hy : y ∈ m.tables.catalog.listings) {z : Condition}
    (hz : z ∈ y.conditions) :
    let saved := (ManagerCall.updateCondition y.experiment.id z.condset
      (z.form newline)).action.runOn m
    saved.1 = .ok .done ∧ saved.2.tables.catalog = m.tables.catalog := by
  intro saved
  obtain ⟨hanswer, hserves⟩ := h.step (.updateCondition y.experiment.id z.condset (z.form newline))
  rw [Catalog.next, h.managed.step_form hw hn hy hz] at hserves
  rw [h.managed.step_form hw hn hy hz] at hanswer
  exact ⟨hanswer, hserves.catalog⟩

/-- **Texts of commands have a normal form.**  A text is read as its lines that are not blank,
trimmed, and a text put together from two as the lines of the one and then of the other.  What
was read, joined, is read again as it was; and so, whatever was done to a new store before, a
condition that is saved again with its lines joined keeps its commands, and all else that is
stored stays as it is. -/
theorem authoring_law :
    (∀ t : String, ReadsAs t (.ofAuthoringText t)) ∧
    ∀ newline : String, IsLineEnd newline →
      (∀ a b : String, (CommandList.ofAuthoringText (a ++ newline ++ b)).lines =
        (CommandList.ofAuthoringText a).lines ++ (CommandList.ofAuthoringText b).lines) ∧
      (∀ t : String, CommandList.ofAuthoringText
        (newline.intercalate (CommandList.ofAuthoringText t).lines) = .ofAuthoringText t) ∧
      ∀ (lifetime : Option Nat) (sink : AuditSink) (overlap : Bool) (steps : List ManagerStep),
        let m := (Manager.fresh lifetime sink overlap).through steps
        ∀ y ∈ m.tables.catalog.listings, ∀ z ∈ y.conditions,
          let saved := (ManagerCall.updateCondition y.experiment.id z.condset
            (z.form newline)).action.runOn m
          saved.1 = .ok .done ∧ saved.2.tables.catalog = m.tables.catalog := by
  refine ⟨CommandList.readsAs, fun newline hn => ⟨CommandList.lines_append hn,
    CommandList.ofAuthoringText_rejoin hn, ?_⟩⟩
  intro lifetime sink overlap steps m y hy z hz
  have hserves : m.Serves m.tables.catalog :=
    Manager.serves_through lifetime sink overlap steps
  exact hserves.resaved (Manager.written_through lifetime sink overlap steps) hn hy hz

/-- Two commands between blank lines, one of them with a carriage return inside. -/
def looseText : String := "  CFG,theme,classic \r\n\u2003\r\nerror_log,hi\rthere\u0085\n\n"

/-- A theme is tried out with commands that were typed carelessly. -/
def looseHistory : List ManagerStep :=
  [.call (.addExperiment "Theme" "theme" .session (Fin.last 99)),
    .call (.addCondition ⟨1⟩ ⟨"classic", "", looseText, 100, [3, 3]⟩)]

theorem loose_text_resaved :
    let m := (Manager.fresh none .log false).through looseHistory
    let z : Condition :=
      ⟨⟨1⟩, ⟨1⟩, "classic", .parse "", ⟨["CFG,theme,classic", "error_log,hi\rthere"]⟩, 100,
        .ofList [3]⟩
    let saved := (ManagerCall.updateCondition ⟨1⟩ "classic"
      ⟨"classic", "", "CFG,theme,classic\r\nerror_log,hi\rthere", 100, [3]⟩).action.runOn m
    IsLineEnd "\r\n" ∧ m.tables.catalog.listings.map Listing.conditions = [[z]] ∧
      CommandList.ofAuthoringText looseText = z.commands ∧ ReadsAs looseText z.commands ∧
      (CommandList.ofAuthoringText (looseText ++ "\r\n" ++ looseText)).lines =
        z.commands.lines ++ z.commands.lines ∧
      CommandList.ofAuthoringText ("\r\n".intercalate z.commands.lines) = z.commands ∧
      saved.1 = .ok .done ∧ saved.2.tables.catalog = m.tables.catalog := by
  intro m z saved
  have hn : IsLineEnd "\r\n" := .inr rfl
  obtain ⟨hreads, hended⟩ := authoring_law
  obtain ⟨happend, hrejoin, hresaved⟩ := hended "\r\n" hn
  have htext : CommandList.ofAuthoringText looseText = z.commands := by decide +kernel
  have hlistings : m.tables.catalog.listings.map Listing.conditions = [[z]] := by decide +kernel
  refine ⟨hn, hlistings, htext, htext ▸ hreads looseText, ?_, ?_, ?_⟩
  · rw [happend, htext]
  · rw [← htext, hrejoin]
  · have hlisted : ∃ y ∈ m.tables.catalog.listings, y.experiment.id = ⟨1⟩ ∧ z ∈ y.conditions := by
      decide +kernel
    obtain ⟨y, hy, hid, hz⟩ := hlisted
    have hsaved := hresaved none .log false looseHistory y hy z hz
    rw [hid] at hsaved
    exact hsaved

end Store

end SplitTest

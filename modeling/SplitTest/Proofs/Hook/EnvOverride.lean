import SplitTest.Proofs.DatasetFile
import SplitTest.Proofs.Hook.OneVariant
import SplitTest.Proofs.Text.Case
import Mathlib.Data.Finset.Card

/-!
# Overrides from the environment

In a shell it is a variable of the environment that asks for a condition of an experiment, and the
variable has the shortname in upper case.  Shortnames are told apart as they are written, so the
experiments `dark` and `Dark` can stand side by side, and then they share their variable: it
overrides both (`exists_shared_variable`).

There is no other way to share one.  Admitted shortnames have one variable exactly if they agree up
to the case of their letters (`Settings.envVar_eq_iff`), so what one variable overrides are
experiments that differ in case only, and it is one experiment where no two do
(`shared_variable_law`).
-/

namespace SplitTest

open SplitTest.Store SplitTest.Text

/-- The experiments that a report says were overridden. -/
def Report.overridden (report : Report) : List String :=
  (report.firings.filter fun f => f.selection = .byOverride).map Firing.experiment

/-- A request from a shell whose environment sets one variable. -/
structure Request.SetsOne (r : Request) (name value : String) : Prop where
  mode : r.mode = .cli
  env : r.env = .ofList [(name, value)]

/-- The datasets that hooks are given: that of a file, and what the manager of a new store answers
after any history. -/
inductive Dataset.Served : Dataset → Prop where
  | ofFile {f : DatasetFile} {d : Dataset} : f.toDataset = .ok d → Served d
  | ofManager {lifetime : Option Nat} {sink : AuditSink} {overlap : Bool}
      {steps : List ManagerStep} {d : Dataset} {m : Manager} :
      Action.snapshot.runOn ((Manager.fresh lifetime sink overlap).through steps) = (.ok d, m) →
        Served d

/-! ## Names of experiments -/

theorem DatasetFile.BuiltAs.shortnames {f : DatasetFile} {d : Dataset} (h : f.BuiltAs d) :
    d.items.map Entry.shortname = f.experiments.map ExperimentSpec.shortname := by
  rw [← List.forall₂_eq_eq_eq, List.forall₂_map_left_iff, List.forall₂_map_right_iff]
  exact h.entries.flip.imp fun _ _ hbecomes => hbecomes.shortname

theorem Dataset.Served.named {d : Dataset} (h : d.Served) : ∀ e ∈ d.items, IsName e.shortname := by
  intro e he
  cases h with
  | ofFile hd =>
    obtain ⟨hwell, hbuilt⟩ := DatasetFile.toDataset_eq_ok hd
    have hmem : e.shortname ∈ d.items.map Entry.shortname := List.mem_map_of_mem he
    rw [hbuilt.shortnames] at hmem
    obtain ⟨spec, hspec, hname⟩ := List.mem_map.mp hmem
    rw [← hname]
    exact hwell.named spec hspec
  | @ofManager lifetime sink overlap steps d m hd =>
    have hserves := Manager.serves_through lifetime sink overlap steps
    obtain ⟨d', m', hrun, hlistings, -⟩ := hserves.snapshot
    rw [hd] at hrun
    obtain rfl := Except.ok.inj (Prod.mk.inj hrun).1
    -- the listing of the entry is that of an experiment in the tables
    have hmem : Listing.ofEntry e ∈ Listing.ofDataset d := List.mem_map_of_mem he
    rw [hlistings] at hmem
    obtain ⟨x, hx, hlisting⟩ := List.mem_map.mp hmem
    have hname : x.shortname = e.shortname := congrArg (fun y => y.experiment.shortname) hlisting
    rw [← hname]
    exact isShortname_iff.mp (hserves.managed.admitted x hx).1

/-! ## Names of variables -/

/-- **Admitted shortnames share their variable exactly if they agree up to case.** -/
theorem Settings.envVar_eq_iff (s : Settings) {x y : String} (hx : IsName x) (hy : IsName y) :
    s.envVar x = s.envVar y ↔ equalFolded x y = true := by
  have hascii {z : String} (hz : IsName z) : ∀ c ∈ z.toList, c.toNat < 128 := by
    intro c hc
    refine toNat_lt_of_isAlphanumeric ?_
    rw [isAlphanumeric_eq]
    exact hz.2 c hc
  rw [envVar, envVar, String.append_right_inj, uppercased_eq_iff (hascii hx) (hascii hy)]

/-- The one variable that is set is that of every experiment that is asked for. -/
theorem Request.SetsOne.envVar_eq {r : Request} {name value : String} (h : r.SetsOne name value)
    {s : Settings} {e : Entry} {c : String} (hasks : r.AsksFor s e c) :
    s.envVar e.shortname = name := by
  obtain ⟨-, -, -, -, hasked⟩ := hasks
  rw [h.mode] at hasked
  have hmem := Dictionary.get?_eq_some_iff.mp hasked
  rw [h.env] at hmem
  exact (Prod.mk.inj (List.mem_singleton.mp hmem)).1

/-! ## What is overridden -/

section
variable {s : Settings} {r : Request} {d : Dataset}

/-- **What a call overrides is asked for**, each experiment once and in stored order. -/
theorem HookCall.overridden_run {c : HookCall} (hc : c.hook? = some .afterConfig) (h : Host)
    (draws : Draws) :
    ∃ report, (c.run s r (.ok d) h draws).answer = .report report ∧
      report.overridden.Sublist (d.items.map Entry.shortname) ∧
      ∀ x ∈ report.overridden,
        ∃ e ∈ d.items, e.shortname = x ∧ ∃ condset, r.AsksFor s e condset := by
  cases hr : r.adminDisabled s with
  | true =>
    have hgate : EvaluationHook.afterConfig.gate s r = .switchedOff := by
      rw [EvaluationHook.gate, hr]
      rfl
    have hrun : c.run s r (.ok d) h draws = _ := HookCall.run_stopped hc fun device => by
      rw [hgate]
      rintro ⟨⟩
    rw [hgate] at hrun
    exact ⟨_, congrArg HookResult.answer hrun, List.nil_sublist _, by rintro x ⟨⟩⟩
  | false =>
    obtain ⟨report, ha, -, law⟩ := HookCall.afterConfigLaw_run hc hr d h draws
    have hname : ∀ e f, r.OverrideFires s e f → f.experiment = e.shortname :=
      fun _ _ => experiment_overrideFires
    refine ⟨report, ha, law.overrides.sublist_map hname, fun x hx => ?_⟩
    obtain ⟨e, he, rfl, f, condset, hasks, -⟩ := (law.overrides.mem_map_iff hname).mp hx
    exact ⟨e, he, rfl, condset, hasks⟩

end

/-- **One variable overrides experiments whose shortnames differ in case only.**  Admitted
shortnames have the same variable exactly if they agree up to the case of their letters.  So in a
shell whose environment sets one variable, all experiments that are overridden once the
configuration was read agree up to case, and there is one at most if the shortnames of the dataset
are distinct up to case. -/
theorem shared_variable_law :
    (∀ (s : Settings) (x y : String), IsName x → IsName y →
      (s.envVar x = s.envVar y ↔ equalFolded x y = true)) ∧
    ∀ (d : Dataset) (c : HookCall) (s : Settings) (r : Request) (name value : String) (h : Host)
      (draws : Draws), d.Served → c.hook? = some .afterConfig → r.SetsOne name value →
      ∃ report, (c.run s r (.ok d) h draws).answer = .report report ∧
        (∀ x ∈ report.overridden, ∀ y ∈ report.overridden, equalFolded x y = true) ∧
        ((d.items.map fun e => foldedAscii e.shortname).Nodup → report.overridden.length ≤ 1) := by
  refine ⟨fun s _ _ hx hy => s.envVar_eq_iff hx hy, ?_⟩
  intro d c s r name value h draws hserved hc hr
  obtain ⟨report, ha, hsublist, hasked⟩ :=
    HookCall.overridden_run (s := s) (r := r) (d := d) hc h draws
  have hfolded : ∀ x ∈ report.overridden, ∀ y ∈ report.overridden, equalFolded x y = true := by
    intro x hx y hy
    obtain ⟨e, he, rfl, condset, hasks⟩ := hasked x hx
    obtain ⟨e', he', rfl, condset', hasks'⟩ := hasked y hy
    refine (s.envVar_eq_iff (hserved.named e he) (hserved.named e' he')).mp ?_
    rw [hr.envVar_eq hasks, hr.envVar_eq hasks']
  refine ⟨report, ha, hfolded, fun hdistinct => ?_⟩
  have hnodup : (report.overridden.map foldedAscii).Nodup := by
    have hnames : ((d.items.map Entry.shortname).map foldedAscii).Nodup := by
      rw [List.map_map]
      exact hdistinct
    exact hnames.sublist (hsublist.map foldedAscii)
  have hcard : (report.overridden.map foldedAscii).toFinset.card ≤ 1 := by
    refine Finset.card_le_one.mpr fun a ha b hb => ?_
    obtain ⟨x, hx, rfl⟩ := List.mem_map.mp (List.mem_toFinset.mp ha)
    obtain ⟨y, hy, rfl⟩ := List.mem_map.mp (List.mem_toFinset.mp hb)
    exact beq_iff_eq.mp (hfolded x hx y hy)
  rwa [List.toFinset_card_of_nodup hnodup, List.length_map] at hcard

/-- A file of two session experiments of one condition each. -/
def DatasetFile.switches (x y : String) : DatasetFile :=
  let condition : ConditionSpec := ⟨"on", 100, "", [], ∅⟩
  ⟨[⟨none, x, .session, true, false, 0, [condition]⟩,
    ⟨none, y, .session, true, false, 0, [condition]⟩]⟩

/-- The dataset of that file. -/
def Dataset.switches (x y : String) : Dataset :=
  .ofList (ExperimentSpec.entries 1 1 (DatasetFile.switches x y).experiments)

/-- A guest in a shell that asks for the condition by a variable. -/
def Request.switchOn (name : String) : Request where
  requester := ⟨some "192.0.2.1", some "ua", none, false⟩
  mode := .cli
  params := .empty
  env := .ofList [(name, "on")]

theorem switches_overridden :
    let r := Request.switchOn "ABCONFIG_DARK"
    let call := fun d : Dataset =>
      ((HookCall.evaluate .afterConfig).run .standard r (.ok d) default (.constant 1)).answer
    r.SetsOne "ABCONFIG_DARK" "on" ∧
      (Dataset.Served (.switches "dark" "Dark") ∧
        ∃ report, call (.switches "dark" "Dark") = .report report ∧
          report.overridden = ["dark", "Dark"] ∧ equalFolded "dark" "Dark" = true) ∧
      Dataset.Served (.switches "dark" "light") ∧
        ∃ report, call (.switches "dark" "light") = .report report ∧
          report.overridden.length ≤ 1 := by
  intro r call
  have hset : r.SetsOne "ABCONFIG_DARK" "on" := ⟨rfl, rfl⟩
  have htwins : (DatasetFile.switches "dark" "Dark").toDataset = .ok (.switches "dark" "Dark") := by
    decide +kernel
  have hapart : (DatasetFile.switches "dark" "light").toDataset =
      .ok (.switches "dark" "light") := by
    decide +kernel
  refine ⟨hset, ⟨.ofFile htwins, ?_⟩, .ofFile hapart, ?_⟩
  · obtain ⟨report, ha, hfolded, -⟩ := shared_variable_law.2 _ (.evaluate .afterConfig) .standard
      r _ _ default (.constant 1) (.ofFile htwins) rfl hset
    have hanswer : call (.switches "dark" "Dark") =
        .report ⟨false, [⟨"dark", "on", .byOverride⟩, ⟨"Dark", "on", .byOverride⟩], .empty⟩ := rfl
    obtain rfl := HookAnswer.report.inj (ha.symm.trans hanswer)
    exact ⟨_, hanswer, rfl, hfolded "dark" (by decide) "Dark" (by decide)⟩
  · obtain ⟨report, ha, -, hone⟩ := shared_variable_law.2 _ (.evaluate .afterConfig) .standard
      r _ _ default (.constant 1) (.ofFile hapart) rfl hset
    exact ⟨report, ha, hone (by decide +kernel)⟩

/-- **One variable can override two experiments** of a file that is accepted. -/
theorem exists_shared_variable :
    ¬∀ (f : DatasetFile) (d : Dataset) (s : Settings) (r : Request) (name value : String)
      (h : Host) (draws : Draws) (report : Report), f.toDataset = .ok d → r.SetsOne name value →
      ((HookCall.evaluate .afterConfig).run s r (.ok d) h draws).answer = .report report →
        report.overridden.length ≤ 1 := by
  intro hall
  have hone := hall (.switches "dark" "Dark") (.switches "dark" "Dark") .standard
    (.switchOn "ABCONFIG_DARK") "ABCONFIG_DARK" "on" default (.constant 1)
    ⟨false, [⟨"dark", "on", .byOverride⟩, ⟨"Dark", "on", .byOverride⟩], .empty⟩
    (by decide +kernel) ⟨rfl, rfl⟩ rfl
  exact absurd hone (by decide)

end SplitTest

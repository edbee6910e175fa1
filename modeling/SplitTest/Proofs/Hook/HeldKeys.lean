import SplitTest.Proofs.Hook.Work

/-!
# Keys that the site holds

A key that the site fixed or forced, and for which it gave no permission, is out of the
experiments' reach: its value stays, and every command that writes it is refused.  But the
permission is a key like any other, which the site does not hold.  So the protection lasts
exactly until a command writes the permission (`isLocked_carryOut_iff`); an experiment that
writes the permission first can write the key (`exists_key_freed_by_commands`).

One line keeps a guarded key guarded (`Guarded.applyLine`), and so do the batches of whole
runs (`held_key_law`).
-/

namespace SplitTest

open SplitTest.Store

namespace ConfigKey

/-- A key is held with a value, and its permission cannot be read. -/
structure Guarded (k : ConfigKey) (value : Option String) (c : SiteConfig) : Prop where
  /-- The key is fixed, or forced. -/
  held : k.isHeld c = true
  /-- Its permission has no value. -/
  unpermitted : k.permission.read? c = none
  /-- Its value. -/
  value : k.read? c = value

section
variable {k : ConfigKey} {value : Option String} {h : Host}

theorem Guarded.isLocked {c : SiteConfig} (hg : k.Guarded value c) : k.isLocked c = true := by
  rw [ConfigKey.isLocked, hg.held, hg.unpermitted]
  rfl

theorem isLocked_of_isSome_permission {c : SiteConfig}
    (h : (k.permission.read? c).isSome = true) : k.isLocked c = false := by
  obtain ⟨value, hvalue⟩ := Option.isSome_iff_exists.mp h
  rw [ConfigKey.isLocked, hvalue, Option.isNone_some, Bool.and_false]

/-- **A line that does not write the permission keeps a key guarded**, and is refused if it
writes the key. -/
theorem Guarded.applyLine {x line : String} (hg : k.Guarded value h.config)
    (hline : ofLine? line ≠ some k.permission) :
    k.Guarded value (h.applyLine x line).1.config ∧
      (ofLine? line = some k → (h.applyLine x line).2 = .rejected k.refusal) := by
  by_cases hk : ofLine? line = some k
  · obtain ⟨hconfig, houtcome⟩ := Host.applyLine_of_isLocked (x := x) hk hg.isLocked
    rw [hconfig]
    exact ⟨hg, fun _ => houtcome⟩
  · refine ⟨⟨?_, ?_, ?_⟩, fun he => absurd he hk⟩
    · rw [Host.isHeld_applyLine_of_ne hk]
      exact hg.held
    · rw [Host.read?_applyLine_of_ne hline]
      exact hg.unpermitted
    · rw [Host.read?_applyLine_of_ne hk]
      exact hg.value

/-- A batch that spares the permission keeps a key guarded. -/
theorem Guarded.carryOut {batch : Batch} (hg : k.Guarded value h.config)
    (hbatch : Batch.Spares batch k.permission) :
    k.Guarded value (h.carryOut batch).config ∧
      ∀ run ∈ h.lineRuns batch, ofLine? run.line = some k → run.outcome = .rejected k.refusal :=
  Host.carryOut_induction (P := fun h => k.Guarded value h.config)
    (Q := fun run => ofLine? run.line = some k → run.outcome = .rejected k.refusal)
    (fun _ part hpart line hline hg => hg.applyLine (hbatch part hpart line hline)) hg

/-- **A guarded key stays locked exactly as long as its permission is spared.** -/
theorem Guarded.isLocked_carryOut_iff {batch : Batch} (hg : k.Guarded value h.config) :
    k.isLocked (h.carryOut batch).config = true ↔ Batch.Spares batch k.permission := by
  constructor
  · intro hlocked
    by_contra hwrites
    have hpermission := Host.isSome_read?_carryOut_of_not_spares hwrites h
    rw [isLocked_of_isSome_permission hpermission] at hlocked
    cases hlocked
  · intro hspares
    exact (hg.carryOut hspares).1.isLocked

end

/-- What holding a key comes to while a batch is carried out. -/
structure HeldInBatch (k : ConfigKey) (h : Host) (batch : Batch) : Prop where
  /-- The key is locked until its permission is written. -/
  locked_iff : k.isLocked (h.carryOut batch).config = true ↔ Batch.Spares batch k.permission
  /-- Until then it keeps its value. -/
  kept : Batch.Spares batch k.permission →
    k.read? (h.carryOut batch).config = k.read? h.config
  /-- Until then every line that writes it is refused. -/
  refused : Batch.Spares batch k.permission → ∀ run ∈ h.lineRuns batch,
    ofLine? run.line = some k → run.outcome = .rejected k.refusal

/-- What holding a key comes to over a run of calls. -/
structure HeldInRun {σ : Type} (source : Source σ) (k : ConfigKey) (v : Visit σ)
    (steps : List (VisitStep σ)) : Prop where
  /-- The key is locked until a call writes its permission. -/
  locked_iff : k.isLocked (v.run source steps).host.config = true ↔
    Batch.Spares (v.batches source steps) k.permission
  /-- Until then it keeps its value. -/
  kept : Batch.Spares (v.batches source steps) k.permission →
    k.read? (v.run source steps).host.config = k.read? v.host.config
  /-- Until then every line of a call that writes it is refused, and the report of the call
  tallies it so. -/
  refused : Batch.Spares (v.batches source steps) k.permission →
    ∀ w c d report, (w, c) ∈ v.calls source steps → (w.read source c).1 = .ok d →
      (w.result source c).answer = .report report →
        report.execution = .ofLineRuns (w.host.lineRuns (d.batch report.firings)) ∧
        ∀ run ∈ w.host.lineRuns (d.batch report.firings),
          ofLine? run.line = some k → run.outcome = .rejected k.refusal

/-- **A held key stays as it is until its permission is written**, whatever batches are
carried out and whatever hooks are called. -/
theorem held_key_law (k : ConfigKey) (c : SiteConfig) (hheld : k.isHeld c = true)
    (hpermission : k.permission.read? c = none) :
    (∀ (h : Host) (batch : Batch), h.config = c → HeldInBatch k h batch) ∧
      ∀ {σ : Type} (source : Source σ) (v : Visit σ) (steps : List (VisitStep σ)),
        v.host.config = c → Visit.KeepsConfig steps → HeldInRun source k v steps := by
  have hguarded {h : Host} (hc : h.config = c) : k.Guarded (k.read? h.config) h.config := by
    rw [hc]
    exact ⟨hheld, hpermission, rfl⟩
  refine ⟨fun h batch hc => ?_, fun source v steps hc hsteps => ?_⟩
  · have hg := hguarded hc
    exact ⟨hg.isLocked_carryOut_iff, fun hs => (hg.carryOut hs).1.value,
      fun hs => (hg.carryOut hs).2⟩
  · have hg := hguarded hc
    have hconfig : (v.run source steps).host.config =
        (v.host.carryOut (v.batches source steps)).config := Visit.config_run hsteps v
    refine ⟨?_, ?_, ?_⟩
    · rw [hconfig]
      exact hg.isLocked_carryOut_iff
    · intro hspares
      rw [hconfig]
      exact (hg.carryOut hspares).1.value
    · intro hspares w call d report hcall hd ha
      -- the key is still guarded where the call begins
      obtain ⟨before, after, rfl, rfl⟩ := Visit.exists_prefix_of_mem_calls hcall
      rw [Visit.batches_append] at hspares
      obtain ⟨hbefore, hrest⟩ := List.forall_mem_append.mp hspares
      have hw := (hg.carryOut hbefore).1
      rw [← Visit.config_run fun config hmem => hsteps config (List.mem_append_left _ hmem)] at hw
      have hbatch : Batch.Spares (d.batch report.firings) k.permission := by
        rw [← Visit.batch_of_report hd ha]
        exact (List.forall_mem_append.mp hrest).1
      rw [Visit.result, hd] at ha
      exact ⟨(HookCall.run_work ha).2, (hw.carryOut hbatch).2⟩

end ConfigKey

/-- A site that fixed its theme. -/
def SiteConfig.themed : SiteConfig := { SiteConfig.empty with fixed := .ofList [("theme", "boost")] }

/-- A command on the theme of a themed site does not change it. -/
theorem ConfigKey.theme_held :
    (site "theme").isHeld .themed = true ∧ (site "theme").permission.read? .themed = none ∧
      (site "theme").read? (({ Host.empty with config := .themed } : Host).carryOut
        [("exp1", ⟨["CFG,theme,classic", "CFG,theme_color,red"]⟩)]).config = some "boost" := by
  have hlaw := (held_key_law (site "theme") .themed (by decide) (by decide)).1
    { Host.empty with config := .themed } [("exp1", ⟨["CFG,theme,classic", "CFG,theme_color,red"]⟩)]
    rfl
  exact ⟨by decide, by decide, (hlaw.kept (by decide)).trans (by decide)⟩

/-- **Commands can free a key that the site holds**: they write its permission first. -/
theorem ConfigKey.exists_key_freed_by_commands :
    ¬∀ (k : ConfigKey) (h : Host) (batch : Batch), k.isHeld h.config = true →
      k.permission.read? h.config = none →
        k.read? (h.carryOut batch).config = k.read? h.config := by
  intro hall
  have hkept := hall (site "theme") { Host.empty with config := .themed }
    [("exp1", ⟨["CFG,theme_allow_abconfig,1", "CFG,theme,classic"]⟩)] (by decide) (by decide)
  exact absurd hkept (by decide)

end SplitTest

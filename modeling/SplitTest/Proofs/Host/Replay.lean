import SplitTest.Proofs.Host.Precedence

/-!
# Executing a list again

A list that grants no permission does to the configuration and to the scripts of the page all
that it can the first time (`Host.execute_again`): executed again, and any number of times, it
leaves both as they are.

The second time the commands start from what the first left.  A key that the list writes is
then *settled* for good: it is locked, or has a value both as runtime and as fixed value
(`ConfigKey.IsSettled`).  A locked key is not written, and writing one that has its values puts
them in their place, so that the names of the configuration and their order stay
(`SiteConfig.SameNames`).  On the way a permitted key takes all its values once more, but what
it is left with is the same (`ConfigKey.settle_again`).
-/

namespace SplitTest

/-! ## Permissions -/

namespace ConfigKey

/-- The name of a key, of the site or of a plugin. -/
def name : ConfigKey → String
  | site name => name
  | plugin _ name => name

/-- A key whose name ends like that of a permission. -/
def IsPermission (k : ConfigKey) : Prop := "_allow_abconfig".toList <:+ k.name.toList

instance (k : ConfigKey) : Decidable k.IsPermission :=
  inferInstanceAs (Decidable (_ <:+ _))

theorem isPermission_permission (k : ConfigKey) : k.permission.IsPermission := by
  cases k with
  | site name => exact ⟨name.toList, by rw [permission, ConfigKey.name, SiteConfig.permission,
      String.toList_append]⟩
  | plugin p name => exact ⟨name.toList, by rw [permission, ConfigKey.name, SiteConfig.permission,
      String.toList_append]⟩

end ConfigKey

/-- No line of a list writes a key whose name ends like that of a permission. -/
def CommandList.GrantsNothing (l : CommandList) : Prop :=
  ∀ line ∈ l.lines, ∀ k ∈ ConfigKey.ofLine? line, ¬k.IsPermission

instance (l : CommandList) : Decidable l.GrantsNothing :=
  inferInstanceAs (Decidable (∀ line ∈ l.lines, ∀ k ∈ ConfigKey.ofLine? line, ¬k.IsPermission))

theorem CommandList.GrantsNothing.linesOn_permission {l : CommandList} (hl : l.GrantsNothing)
    (k : ConfigKey) : l.linesOn k.permission = [] :=
  linesOn_eq_nil_iff.mpr fun line hline hk => hl line hline _ hk k.isPermission_permission

/-! ## Names of a configuration -/

namespace SiteConfig

/-- Two configurations have settings of the same names, in the same order. -/
structure SameNames (c c' : SiteConfig) : Prop where
  /-- The names with a runtime value. -/
  values : c.values.keys = c'.values.keys
  /-- The names with a fixed value. -/
  fixed : c.fixed.keys = c'.fixed.keys
  /-- The plugins with forced settings. -/
  plugins : c.forced.keys = c'.forced.keys
  /-- The names that are forced on each of them. -/
  forced : ∀ p, (c.forced.get? p).map Keyed.keys = (c'.forced.get? p).map Keyed.keys

namespace SameNames
variable {c c' c'' : SiteConfig}

theorem refl (c : SiteConfig) : c.SameNames c := ⟨rfl, rfl, rfl, fun _ => rfl⟩

theorem trans (h : c.SameNames c') (h' : c'.SameNames c'') : c.SameNames c'' :=
  ⟨h.values.trans h'.values, h.fixed.trans h'.fixed, h.plugins.trans h'.plugins,
    fun p => (h.forced p).trans (h'.forced p)⟩

/-- **A configuration is its names, and what it has of each key.** -/
theorem eq (h : c.SameNames c') (hcell : ∀ k : ConfigKey, k.cell c = k.cell c') : c = c' := by
  obtain ⟨values, fixed, forced⟩ := c
  obtain ⟨values', fixed', forced'⟩ := c'
  obtain ⟨hvalues, hfixed, hplugins, hforced⟩ := h
  have hsite (name : String) := Prod.mk.inj (hcell (.site name))
  obtain rfl : values = values' := Dictionary.ext_get? hvalues fun name => (hsite name).1
  obtain rfl : fixed = fixed' := Dictionary.ext_get? hfixed fun name => (hsite name).2
  have hsettings (p : String) : forced.get? p = forced'.get? p := by
    have hnames := hforced p
    have hplugin (name : String) :
        ((forced.get? p).bind fun d => d.get? name) = (forced'.get? p).bind fun d => d.get? name :=
      (Prod.mk.inj (hcell (.plugin p name))).1
    dsimp only at hnames
    cases hd : forced.get? p with
    | none =>
      rw [hd, Option.map_none] at hnames
      exact (Option.map_eq_none_iff.mp hnames.symm).symm
    | some d =>
      rw [hd, Option.map_some] at hnames
      obtain ⟨d', hd', hkeys⟩ := Option.map_eq_some_iff.mp hnames.symm
      rw [hd, hd'] at hplugin
      rw [hd', Dictionary.ext_get? hkeys.symm hplugin]
  obtain rfl : forced = forced' := Dictionary.ext_get? hplugins hsettings
  rfl

end SameNames

end SiteConfig

/-! ## Settled keys -/

namespace ConfigKey

/-- A configuration has both values of a key. -/
def IsFilled (k : ConfigKey) (c : SiteConfig) : Prop :=
  (k.cell c).1.isSome = true ∧ (k.cell c).2.isSome = true

/-- A line that writes a key adds no name to the configuration. -/
def IsSettled (k : ConfigKey) (c : SiteConfig) : Prop := k.isLocked c = true ∨ k.IsFilled c

theorem isFilled_write_self (k : ConfigKey) (c : SiteConfig) (value : String) :
    k.IsFilled (k.write c value) := by
  rw [IsFilled, cell_write_self]
  exact ⟨rfl, rfl⟩

/-- **Writing a key that has its values adds no name.** -/
theorem sameNames_write {k : ConfigKey} {c : SiteConfig} (hk : k.IsFilled c) (value : String) :
    (k.write c value).SameNames c := by
  cases k with
  | site name =>
    exact ⟨Dictionary.keys_set hk.1 value, Dictionary.keys_set hk.2 value, rfl, fun _ => rfl⟩
  | plugin p name =>
    obtain ⟨held, hheld⟩ := Option.isSome_iff_exists.mp hk.1
    obtain ⟨d, hd, hname⟩ := Option.bind_eq_some_iff.mp hheld
    refine ⟨rfl, rfl, Dictionary.keys_set (Option.isSome_of_eq_some hd) _, fun q => ?_⟩
    simp only [write, SiteConfig.force, hd, Option.getD_some]
    by_cases hq : q = p
    · subst hq
      rw [Dictionary.get?_set_self, hd, Option.map_some, Option.map_some,
        Dictionary.keys_set (Option.isSome_of_eq_some hname)]
    · rw [Dictionary.get?_set_of_ne hq]

/-- Writing another key than its permission leaves a key settled. -/
theorem IsSettled.write {j k : ConfigKey} {c : SiteConfig} (hk : k.IsSettled c)
    (hj : k.permission ≠ j) (value : String) : k.IsSettled (j.write c value) := by
  by_cases hkj : k = j
  · subst hkj
    exact Or.inr (k.isFilled_write_self c value)
  · rw [IsSettled, isLocked, isHeld_write_of_ne hkj, read?_write_of_ne hj, IsFilled,
      cell_write_of_ne hkj]
    exact hk

/-- **Giving a key the same values again leaves the same.** -/
theorem settle_again (refusal : RejectReason) (permitted : Bool)
    (cell : Option String × Option String) (writes : List (String × String)) :
    (settle refusal permitted (settle refusal permitted cell writes).1 writes).1 =
      (settle refusal permitted cell writes).1 := by
  cases permitted with
  | true =>
    simp only [settle_permitted]
    cases (writes.map Prod.snd).getLast? <;> rfl
  | false =>
    cases hheld : cell.2.isSome with
    | true => simp only [settle_held hheld]
    | false =>
      cases writes with
      | nil => rfl
      | cons write writes =>
        have hwritten : (written write.2).2.isSome = true := rfl
        simp only [settle_free hheld, settle_held hwritten]

end ConfigKey

/-! ## The configuration -/

namespace Host
variable {h : Host} {x line : String} {k : ConfigKey}

/-- A line that writes a settled key, or none, adds no name. -/
theorem sameNames_applyLine (hline : ∀ k, ConfigKey.ofLine? line = some k → k.IsSettled h.config) :
    (h.applyLine x line).1.config.SameNames h.config := by
  rcases applyLine_cases h x line with ⟨-, hc⟩ | ⟨j, value, hj, ⟨-, hc, -⟩ | ⟨hfree, hc, -⟩⟩
  · rw [hc]
    exact .refl _
  · rw [hc]
    exact .refl _
  · rw [hc]
    refine ConfigKey.sameNames_write ((hline j hj).resolve_left ?_) value
    rw [hfree]
    exact Bool.false_ne_true

/-- A line that leaves its permission alone leaves a key settled. -/
theorem isSettled_applyLine (hk : k.IsSettled h.config)
    (hline : ConfigKey.ofLine? line ≠ some k.permission) :
    k.IsSettled (h.applyLine x line).1.config := by
  rcases applyLine_cases h x line with ⟨-, hc⟩ | ⟨j, value, hj, ⟨-, hc, -⟩ | ⟨-, hc, -⟩⟩
  · rw [hc]
    exact hk
  · rw [hc]
    exact hk
  · rw [hc]
    refine hk.write ?_ value
    rintro rfl
    exact hline hj

/-- A line settles the key that it writes. -/
theorem isSettled_applyLine_of_eq (hk : ConfigKey.ofLine? line = some k) :
    k.IsSettled (h.applyLine x line).1.config := by
  rcases applyLine_cases_of_eq hk with ⟨hlocked, hc, -⟩ | ⟨value, -, hc, -⟩
  · rw [hc]
    exact Or.inl hlocked
  · rw [hc]
    exact Or.inr (k.isFilled_write_self h.config value)

/-- **A list settles the keys that it writes**, if it grants no permission. -/
theorem isSettled_execute {l : CommandList} (hl : l.GrantsNothing) {line : String}
    (hline : line ∈ l.lines) (hk : ConfigKey.ofLine? line = some k) (h : Host) (x : String) :
    k.IsSettled (h.execute x l).1.config := by
  have hspared : ∀ line ∈ l.lines, ConfigKey.ofLine? line ≠ some k.permission :=
    CommandList.linesOn_eq_nil_iff.mp (hl.linesOn_permission k)
  exact applyLines_of_mem (P := fun h' => k.IsSettled h'.config) hline
    (fun _ => isSettled_applyLine_of_eq hk)
    (fun _ line' hmem hsettled => isSettled_applyLine hsettled (hspared line' hmem)) h

/-- Executed again, a list that grants no permission adds no name. -/
theorem sameNames_execute_again {l : CommandList} (hl : l.GrantsNothing) (h : Host) (x : String) :
    ((h.execute x l).1.execute x l).1.config.SameNames (h.execute x l).1.config := by
  -- the keys that the list writes stay settled on the way
  refine (applyLines_invariant
    (P := fun h' => h'.config.SameNames (h.execute x l).1.config ∧
      ∀ line ∈ l.lines, ∀ k, ConfigKey.ofLine? line = some k → k.IsSettled h'.config)
    (fun h' line (hline : line ∈ l.lines) ⟨hnames, hsettled⟩ => ⟨?_, ?_⟩)
    ⟨.refl _, fun line hline k hk => isSettled_execute hl hline hk h x⟩).1
  · exact (sameNames_applyLine (hsettled line hline)).trans hnames
  · intro line' hline' k hk
    refine isSettled_applyLine (hsettled line' hline' k hk) ?_
    exact CommandList.linesOn_eq_nil_iff.mp (hl.linesOn_permission k) line hline

/-- **Executed again, a list that grants no permission leaves the configuration.** -/
theorem config_execute_again {l : CommandList} (hl : l.GrantsNothing) (h : Host) (x : String) :
    ((h.execute x l).1.execute x l).1.config = (h.execute x l).1.config := by
  -- the names are the same, so that it is left to compare what is under each
  refine (sameNames_execute_again hl h x).eq fun k => ?_
  have hspared := hl.linesOn_permission k
  have hpermission : k.permission.read? (h.execute x l).1.config = k.permission.read? h.config := by
    rw [ConfigKey.read?_eq_cell, cell_execute_of_linesOn_eq_nil hspared, ← ConfigKey.read?_eq_cell]
  rw [(execute_settled hspared).1, (execute_settled hspared).1, settled, settled, hpermission,
    (execute_settled hspared).1, settled, ConfigKey.settle_again]

end Host

/-! ## Scripts -/

/-- The position and the body of the script that a command queues. -/
def Command.script? : Command → Option (ScriptPosition × String)
  | .jsHeader body => some (.header, body)
  | .jsFooter body => some (.footer, body)
  | _ => none

/-- The scripts of a list of an experiment, each with its key, in order. -/
def CommandList.scripts (l : CommandList) (x : String) : List (String × String) :=
  l.lines.filterMap fun line =>
    ((Command.parse line).toOption.bind Command.script?).map fun s => (s.1.key x, s.2)

namespace Host

/-- Queueing a script offers it to the registry. -/
theorem scripts_queueScript (h : Host) (p : ScriptPosition) (x body : String) :
    (h.queueScript p x body).1.scripts = h.scripts.insertNew (p.key x, body) := by
  simp only [queueScript]
  split
  · next htaken => exact (Keyed.insertNew_of_contains htaken).symm
  · rfl

/-- A line offers its script to the registry. -/
theorem scripts_applyLine (h : Host) (x line : String) :
    (h.applyLine x line).1.scripts =
      ((CommandList.mk [line]).scripts x).foldl Keyed.insertNew h.scripts := by
  unfold applyLine CommandList.scripts
  rw [List.filterMap_cons, List.filterMap_nil]
  cases Command.parse line with
  | error fault => rfl
  | ok c =>
    cases c with
    | jsHeader body => exact h.scripts_queueScript .header x body
    | jsFooter body => exact h.scripts_queueScript .footer x body
    | cfg name value => simp only [apply]; split <;> rfl
    | forcedPluginSetting p name value => simp only [apply]; split <;> rfl
    | httpHeader name value => simp only [apply]; split <;> rfl
    | errorLog message => rfl
    | unknown raw => rfl

/-- **A list offers its scripts to the registry**, in order. -/
theorem scripts_applyLines (x : String) (lines : List String) : ∀ h : Host,
    (h.applyLines x lines).1.scripts =
      ((CommandList.mk lines).scripts x).foldl Keyed.insertNew h.scripts := by
  induction lines with
  | nil => exact fun h => rfl
  | cons line lines ih =>
    intro h
    show ((h.applyLine x line).1.applyLines x lines).1.scripts = _
    rw [ih, scripts_applyLine, ← List.foldl_append]
    congr 1
    exact (List.filterMap_append (l := [line])).symm

/-- Executed again, a list queues no script. -/
theorem scripts_execute_again (h : Host) (x : String) (l : CommandList) :
    ((h.execute x l).1.execute x l).1.scripts = (h.execute x l).1.scripts := by
  simp only [execute_fst, scripts_applyLines]
  exact Keyed.foldl_insertNew_again _ _

/-! ## Any number of times -/

/-- **Executing a list over and over** does no more to the configuration and to the scripts
than executing it once. -/
structure Repeatable (h : Host) (x : String) (l : CommandList) : Prop where
  /-- The second time the configuration stays, in all its settings and their order. -/
  config : ((h.execute x l).1.execute x l).1.config = (h.execute x l).1.config
  /-- And so do the scripts. -/
  scripts : ((h.execute x l).1.execute x l).1.scripts = (h.execute x l).1.scripts
  /-- So they do every time after the first. -/
  times : ∀ n, (h.carryOut (List.replicate (n + 1) (x, l))).config = (h.execute x l).1.config ∧
    (h.carryOut (List.replicate (n + 1) (x, l))).scripts = (h.execute x l).1.scripts

theorem execute_again {l : CommandList} (hl : l.GrantsNothing) (h : Host) (x : String) :
    h.Repeatable x l := by
  refine ⟨config_execute_again hl h x, scripts_execute_again h x l, fun n => ?_⟩
  induction n generalizing h with
  | zero => exact ⟨rfl, rfl⟩
  | succ n ih =>
    rw [List.replicate_succ, carryOut_cons]
    obtain ⟨hconfig, hscripts⟩ := ih (h.execute x l).1
    exact ⟨hconfig.trans (config_execute_again hl h x),
      hscripts.trans (scripts_execute_again h x l)⟩

end Host

end SplitTest

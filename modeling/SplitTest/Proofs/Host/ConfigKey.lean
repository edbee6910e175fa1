import SplitTest.Host.Execution
import SplitTest.Proofs.Keyed

/-!
# Keys of the configuration

A command that writes the configuration writes one key of it: a name of the site, or a name
of a plugin (`ConfigKey`).  Both kinds follow one rule.  A key is *held* once it is fixed,
or forced; a held key is *locked* unless its permission can be read, and the permission of
a key is a key of the same kind.  A locked key refuses to be written (`apply_command`).

Writing one key leaves all others (`cell_write_of_ne`), and nothing takes a value away
(`isSome_read?_applyLine`).
-/

namespace SplitTest

/-- What a command can write. -/
inductive ConfigKey where
  /-- A name of the site. -/
  | site (name : String)
  /-- A name of a plugin. -/
  | plugin (plugin name : String)
deriving DecidableEq, Repr

namespace ConfigKey

/-- The value of a key. -/
def read? : ConfigKey → SiteConfig → Option String
  | site name, c => c.get? name
  | plugin p name, c => c.forced? p name

/-- Whether a key is fixed, or forced. -/
def isHeld : ConfigKey → SiteConfig → Bool
  | site name, c => c.isFixed name
  | plugin p name, c => (c.forced? p name).isSome

/-- What a configuration has of a key: the runtime and the fixed value of a name, and the
forced value of a plugin's name as both. -/
def cell : ConfigKey → SiteConfig → Option String × Option String
  | site name, c => (c.values.get? name, c.fixed.get? name)
  | plugin p name, c => (c.forced? p name, c.forced? p name)

/-- A key that was written has the value as both. -/
def written (value : String) : Option String × Option String := (some value, some value)

/-- Write a key. -/
def write : ConfigKey → SiteConfig → String → SiteConfig
  | site name, c, value => c.set name value
  | plugin p name, c, value => c.force p name value

/-- The key that lets experiments write a held key. -/
def permission : ConfigKey → ConfigKey
  | site name => site (SiteConfig.permission name)
  | plugin p name => plugin p (SiteConfig.permission name)

/-- Whether experiments must not write a key. -/
def isLocked (k : ConfigKey) (c : SiteConfig) : Bool :=
  k.isHeld c && (k.permission.read? c).isNone

/-- The command that writes a key. -/
def command : ConfigKey → String → Command
  | site name, value => .cfg name value
  | plugin p name, value => .forcedPluginSetting p name value

/-- Why a locked key is not written. -/
def refusal : ConfigKey → RejectReason
  | site name => .configAlreadySet name
  | plugin p name => .pluginSettingAlreadySet p name

/-- The key that a command writes. -/
def ofCommand? : Command → Option ConfigKey
  | .cfg name _ => some (site name)
  | .forcedPluginSetting p name _ => some (plugin p name)
  | _ => none

/-- The key that a line writes. -/
def ofLine? (line : String) : Option ConfigKey := (Command.parse line).toOption.bind ofCommand?

theorem ofCommand?_eq_some_iff {cmd : Command} {k : ConfigKey} :
    ofCommand? cmd = some k ↔ ∃ value, cmd = k.command value := by
  constructor
  · intro h
    cases cmd with
    | cfg name value =>
      obtain rfl := Option.some.inj h
      exact ⟨value, rfl⟩
    | forcedPluginSetting p name value =>
      obtain rfl := Option.some.inj h
      exact ⟨value, rfl⟩
    | _ => cases h
  · rintro ⟨value, rfl⟩
    cases k <;> rfl

theorem ofLine?_eq_some_iff {line : String} {k : ConfigKey} :
    ofLine? line = some k ↔ ∃ value, Command.parse line = .ok (k.command value) := by
  rw [ofLine?, Option.bind_eq_some_iff]
  cases Command.parse line with
  | error fault => simp [Except.toOption]
  | ok cmd => simp [Except.toOption, ofCommand?_eq_some_iff]

/-! ## Reading what was written -/

theorem read?_eq_cell (k : ConfigKey) (c : SiteConfig) :
    k.read? c = (k.cell c).1.or (k.cell c).2 := by
  cases k with
  | site name => rfl
  | plugin p name => exact Option.or_self.symm

theorem isHeld_eq_cell (k : ConfigKey) (c : SiteConfig) : k.isHeld c = (k.cell c).2.isSome := by
  cases k with
  | site name => exact Option.isSome_map.symm
  | plugin p name => rfl

/-- A held key has a value. -/
theorem isSome_read?_of_isHeld {k : ConfigKey} {c : SiteConfig} (h : k.isHeld c = true) :
    (k.read? c).isSome = true := by
  rw [isHeld_eq_cell] at h
  rw [read?_eq_cell, Option.isSome_or, h, Bool.or_true]

@[simp] theorem cell_write_self (k : ConfigKey) (c : SiteConfig) (value : String) :
    k.cell (k.write c value) = written value := by
  cases k with
  | site name => simp [cell, write, written, SiteConfig.set]
  | plugin p name => simp [cell, write, written, SiteConfig.forced?, SiteConfig.force]

@[simp] theorem read?_write_self (k : ConfigKey) (c : SiteConfig) (value : String) :
    k.read? (k.write c value) = some value := by
  rw [read?_eq_cell, cell_write_self]
  rfl

/-- What a plugin's settings come to after one of them was forced. -/
theorem forced?_force {c : SiteConfig} {p q name other value : String}
    (h : ¬(q = p ∧ other = name)) : (c.force p name value).forced? q other = c.forced? q other := by
  simp only [SiteConfig.forced?, SiteConfig.force]
  -- the settings of one plugin are written anew as a whole
  by_cases hq : q = p
  · subst hq
    have hother : other ≠ name := fun e => h ⟨rfl, e⟩
    rw [Dictionary.get?_set_self, Option.bind_some, Dictionary.get?_set_of_ne hother]
    cases c.forced.get? q with
    | none => rfl
    | some d => rfl
  · rw [Dictionary.get?_set_of_ne hq]

/-- **Writing a key leaves every other.** -/
theorem cell_write_of_ne {j k : ConfigKey} (h : j ≠ k) (c : SiteConfig) (value : String) :
    j.cell (k.write c value) = j.cell c := by
  cases k with
  | site name =>
    cases j with
    | site other =>
      have hother : other ≠ name := fun e => h (congrArg site e)
      simp only [cell, write, SiteConfig.set, Dictionary.get?_set_of_ne hother]
    | plugin q other => rfl
  | plugin p name =>
    cases j with
    | site other => rfl
    | plugin q other =>
      have hread : (c.force p name value).forced? q other = c.forced? q other := by
        refine forced?_force ?_
        rintro ⟨rfl, rfl⟩
        exact h rfl
      simp only [cell, write, hread]

/-- Writing a key leaves the value of every other. -/
theorem read?_write_of_ne {j k : ConfigKey} (h : j ≠ k) (c : SiteConfig) (value : String) :
    j.read? (k.write c value) = j.read? c := by
  rw [read?_eq_cell, cell_write_of_ne h, ← read?_eq_cell]

/-- Writing a key holds no other. -/
theorem isHeld_write_of_ne {j k : ConfigKey} (h : j ≠ k) (c : SiteConfig) (value : String) :
    j.isHeld (k.write c value) = j.isHeld c := by
  rw [isHeld_eq_cell, cell_write_of_ne h, ← isHeld_eq_cell]

end ConfigKey

/-! ## What a line does to the configuration -/

namespace Host
variable (h : Host) (x line : String)

/-- **A command writes its key, unless that is locked.** -/
theorem apply_command (k : ConfigKey) (value : String) :
    h.apply x (k.command value) =
      if k.isLocked h.config then h.refuse k.refusal
      else ({ h with config := k.write h.config value }, .applied) := by
  cases k with
  | site name =>
    rw [ConfigKey.isLocked, Bool.and_comm]
    rfl
  | plugin p name => rfl

/-- Other commands leave the configuration. -/
theorem config_apply_of_none {cmd : Command} (hcmd : ConfigKey.ofCommand? cmd = none) :
    (h.apply x cmd).1.config = h.config := by
  have hqueue (p : ScriptPosition) (body : String) :
      (h.queueScript p x body).1.config = h.config := by
    simp only [queueScript]
    split <;> rfl
  cases cmd with
  | cfg name value => cases hcmd
  | forcedPluginSetting p name value => cases hcmd
  | httpHeader name value =>
    simp only [apply]
    split <;> rfl
  | errorLog message => rfl
  | jsHeader body => exact hqueue .header body
  | jsFooter body => exact hqueue .footer body
  | unknown raw => rfl

/-- **Everything that a line can do to the configuration.**  It writes no key and leaves
the configuration; or it writes one, if that is not locked, and is refused otherwise. -/
theorem applyLine_cases :
    (ConfigKey.ofLine? line = none ∧ (h.applyLine x line).1.config = h.config) ∨
    ∃ k value, ConfigKey.ofLine? line = some k ∧
      ((k.isLocked h.config = true ∧ (h.applyLine x line).1.config = h.config ∧
          (h.applyLine x line).2 = .rejected k.refusal) ∨
        (k.isLocked h.config = false ∧
          (h.applyLine x line).1.config = k.write h.config value ∧
          (h.applyLine x line).2 = .applied)) := by
  cases hkey : ConfigKey.ofLine? line with
  | none =>
    refine Or.inl ⟨rfl, ?_⟩
    unfold applyLine
    unfold ConfigKey.ofLine? at hkey
    cases hparse : Command.parse line with
    | error fault => rfl
    | ok cmd =>
      rw [hparse] at hkey
      exact config_apply_of_none h x hkey
  | some k =>
    obtain ⟨value, hparse⟩ := ConfigKey.ofLine?_eq_some_iff.mp hkey
    have hline : h.applyLine x line = h.apply x (k.command value) := by
      rw [applyLine, hparse]
    refine Or.inr ⟨k, value, rfl, ?_⟩
    rw [hline, apply_command]
    cases hlocked : k.isLocked h.config with
    | true => exact Or.inl ⟨rfl, rfl, rfl⟩
    | false => exact Or.inr ⟨rfl, rfl, rfl⟩

variable {h x line} {k : ConfigKey}

/-- **A line that does not write a key leaves it.** -/
theorem cell_applyLine_of_ne (hk : ConfigKey.ofLine? line ≠ some k) :
    k.cell (h.applyLine x line).1.config = k.cell h.config := by
  rcases applyLine_cases h x line with ⟨-, hc⟩ | ⟨j, value, hj, ⟨-, hc, -⟩ | ⟨-, hc, -⟩⟩
  · rw [hc]
  · rw [hc]
  · rw [hc, ConfigKey.cell_write_of_ne]
    rintro rfl
    exact hk hj

/-- A line that does not write a key leaves its value. -/
theorem read?_applyLine_of_ne (hk : ConfigKey.ofLine? line ≠ some k) :
    k.read? (h.applyLine x line).1.config = k.read? h.config := by
  rw [ConfigKey.read?_eq_cell, cell_applyLine_of_ne hk, ← ConfigKey.read?_eq_cell]

/-- A line that does not write a key neither holds nor frees it. -/
theorem isHeld_applyLine_of_ne (hk : ConfigKey.ofLine? line ≠ some k) :
    k.isHeld (h.applyLine x line).1.config = k.isHeld h.config := by
  rw [ConfigKey.isHeld_eq_cell, cell_applyLine_of_ne hk, ← ConfigKey.isHeld_eq_cell]

/-- The cases of a line that is known to write a key. -/
theorem applyLine_cases_of_eq (hk : ConfigKey.ofLine? line = some k) :
    (k.isLocked h.config = true ∧ (h.applyLine x line).1.config = h.config ∧
        (h.applyLine x line).2 = .rejected k.refusal) ∨
      ∃ value, k.isLocked h.config = false ∧
        (h.applyLine x line).1.config = k.write h.config value ∧
        (h.applyLine x line).2 = .applied := by
  rcases applyLine_cases h x line with ⟨hj, -⟩ | ⟨j, value, hj, hcases⟩
  · rw [hj] at hk
    cases hk
  · obtain rfl := Option.some.inj (hj.symm.trans hk)
    exact hcases.imp_right fun hfree => ⟨value, hfree⟩

/-- A line that writes a locked key is refused, and leaves the configuration. -/
theorem applyLine_of_isLocked (hk : ConfigKey.ofLine? line = some k)
    (hlocked : k.isLocked h.config = true) :
    (h.applyLine x line).1.config = h.config ∧ (h.applyLine x line).2 = .rejected k.refusal := by
  rcases applyLine_cases_of_eq hk with ⟨-, hc, ho⟩ | ⟨value, hfree, -⟩
  · exact ⟨hc, ho⟩
  · rw [hlocked] at hfree
    cases hfree

/-- A line that writes a key which is not locked gives it a value. -/
theorem isSome_read?_applyLine_of_isLocked_eq_false (hk : ConfigKey.ofLine? line = some k)
    (hfree : k.isLocked h.config = false) :
    (k.read? (h.applyLine x line).1.config).isSome = true ∧ (h.applyLine x line).2 = .applied := by
  rcases applyLine_cases_of_eq hk with ⟨hlocked, -⟩ | ⟨value, -, hc, ho⟩
  · rw [hfree] at hlocked
    cases hlocked
  · refine ⟨?_, ho⟩
    rw [hc, ConfigKey.read?_write_self]
    rfl

/-- No line takes a value away. -/
theorem isSome_read?_applyLine (hk : (k.read? h.config).isSome = true) :
    (k.read? (h.applyLine x line).1.config).isSome = true := by
  rcases applyLine_cases h x line with ⟨-, hc⟩ | ⟨j, value, -, ⟨-, hc, -⟩ | ⟨-, hc, -⟩⟩
  · rw [hc]
    exact hk
  · rw [hc]
    exact hk
  · rw [hc]
    by_cases hkj : k = j
    · subst hkj
      rw [ConfigKey.read?_write_self]
      rfl
    · rw [ConfigKey.read?_write_of_ne hkj]
      exact hk

end Host

end SplitTest

import SplitTest.Proofs.Host.Assignment

/-!
# Precedence

Which of several values a key keeps depends on its permission and on whether it was held
before.  As long as the lines of a list leave the permission alone:

* with a permission every line writes the key, so the last value stays;
* without one a key that is held keeps what it has, and every line is rejected;
* without one the first line writes a key that is not held.  That holds the key, so all
  later lines are rejected.

`CommandList.precedence_law` says so for every key, names that end like a permission included.
A line on another key changes neither what the configuration has of the key nor, as it leaves
the permission alone, whether the key is permitted.  So the lines on the key decide by the
values that they give it, one after another (`ConfigKey.settle`, `Host.applyLines_settled`),
and each of the three is a fact about that.
-/

namespace SplitTest

namespace ConfigKey

theorem isLocked_eq_cell (k : ConfigKey) (c : SiteConfig) :
    k.isLocked c = (!(k.permission.read? c).isSome && (k.cell c).2.isSome) := by
  rw [isLocked, isHeld_eq_cell, Bool.and_comm, Option.not_isSome]

/-- The value that a line is to give a key. -/
def valueIn? (k : ConfigKey) (line : String) : Option String :=
  ((Assignment.ofLine? line).filter fun a => a.key = k).map Assignment.value

theorem valueIn?_eq_some_iff {k : ConfigKey} {line value : String} :
    k.valueIn? line = some value ↔ Command.parse line = .ok (k.command value) := by
  simp only [valueIn?, Option.map_eq_some_iff, Option.filter_eq_some_iff,
    Assignment.ofLine?_eq_some_iff, decide_eq_true_eq]
  constructor
  · rintro ⟨⟨key, _⟩, ⟨hparse, rfl⟩, rfl⟩
    exact hparse
  · intro hparse
    exact ⟨⟨k, value⟩, ⟨hparse, rfl⟩, rfl⟩

theorem isSome_valueIn?_iff {k : ConfigKey} {line : String} :
    (k.valueIn? line).isSome = true ↔ ofLine? line = some k := by
  rw [ofLine?_eq_some_iff, Option.isSome_iff_exists]
  exact exists_congr fun value => valueIn?_eq_some_iff

theorem valueIn?_eq_none_iff {k : ConfigKey} {line : String} :
    k.valueIn? line = none ↔ ofLine? line ≠ some k := by
  rw [← Option.not_isSome_iff_eq_none, isSome_valueIn?_iff]

/-! ## Values one after another -/

/-- What becomes of the cell of a key, and of lines that give it values in order. -/
def settle (refusal : RejectReason) (permitted : Bool) (cell : Option String × Option String) :
    List (String × String) → (Option String × Option String) × List (String × LineOutcome)
  | [] => (cell, [])
  | (line, value) :: writes =>
    if !permitted && cell.2.isSome then
      let (left, outcomes) := settle refusal permitted cell writes
      (left, (line, .rejected refusal) :: outcomes)
    else
      let (left, outcomes) := settle refusal permitted (written value) writes
      (left, (line, .applied) :: outcomes)

section
variable {refusal : RejectReason} {cell : Option String × Option String}
  {writes : List (String × String)}

/-- With a permission the last value stays. -/
theorem settle_permitted : settle refusal true cell writes =
    (((writes.map Prod.snd).getLast?.map written).getD cell,
      writes.map fun write => (write.1, .applied)) := by
  induction writes generalizing cell with
  | nil => rfl
  | cons write writes ih =>
    simp only [settle, Bool.not_true, Bool.false_and, Bool.false_eq_true, if_false, ih,
      List.map_cons, List.getLast?_cons, Option.map_some, Option.getD_some]
    cases (writes.map Prod.snd).getLast? <;> rfl

/-- Without one a held key stays as it is. -/
theorem settle_held (hheld : cell.2.isSome = true) : settle refusal false cell writes =
    (cell, writes.map fun write => (write.1, .rejected refusal)) := by
  induction writes with
  | nil => rfl
  | cons write writes ih =>
    simp only [settle, Bool.not_false, hheld, Bool.and_self, if_true, ih, List.map_cons]

/-- Without one the first value stays of a key that is not held. -/
theorem settle_free {write : String × String} (hfree : cell.2.isSome = false) :
    settle refusal false cell (write :: writes) =
      (written write.2,
        (write.1, .applied) :: writes.map fun write => (write.1, .rejected refusal)) := by
  have hheld : (written write.2).2.isSome = true := rfl
  simp only [settle, hfree, Bool.and_false, Bool.false_eq_true, if_false, settle_held hheld]

end

end ConfigKey

/-! ## One line -/

namespace Host
variable {h : Host} {x line : String} {k : ConfigKey}

/-- A line gives a key its value, unless that is locked. -/
theorem applyLine_of_valueIn? {value : String} (hvalue : k.valueIn? line = some value) :
    h.applyLine x line =
      if k.isLocked h.config then h.refuse k.refusal
      else ({ h with config := k.write h.config value }, .applied) := by
  rw [applyLine, ConfigKey.valueIn?_eq_some_iff.mp hvalue]
  exact apply_command h x k value

end Host

/-! ## Lists -/

namespace CommandList

/-- The lines of a list that write a key, each with the value, in order. -/
def writesOn (l : CommandList) (k : ConfigKey) : List (String × String) :=
  l.lines.filterMap fun line => (k.valueIn? line).map fun value => (line, value)

/-- The lines of a list that write a key. -/
def linesOn (l : CommandList) (k : ConfigKey) : List String := (l.writesOn k).map Prod.fst

/-- The values that a list gives to a key. -/
def valuesOn (l : CommandList) (k : ConfigKey) : List String := (l.writesOn k).map Prod.snd

theorem linesOn_eq_nil_iff {l : CommandList} {k : ConfigKey} :
    l.linesOn k = [] ↔ ∀ line ∈ l.lines, ConfigKey.ofLine? line ≠ some k := by
  rw [linesOn, List.map_eq_nil_iff, writesOn, List.filterMap_eq_nil_iff]
  refine forall₂_congr fun line _ => ?_
  rw [Option.map_eq_none_iff, ConfigKey.valueIn?_eq_none_iff]

end CommandList

namespace Host
variable {x : String} {k : ConfigKey}

/-- What a list does to a key according to `ConfigKey.settle`. -/
def settled (h : Host) (k : ConfigKey) (l : CommandList) :
    (Option String × Option String) × List (String × LineOutcome) :=
  ConfigKey.settle k.refusal (k.permission.read? h.config).isSome (k.cell h.config) (l.writesOn k)

/-- **A list settles a key** whose permission it leaves alone: what it leaves of the key, and
what becomes of the lines on it, depends on nothing but the values that it gives the key. -/
theorem applyLines_settled {lines : List String}
    (hspared : ∀ line ∈ lines, ConfigKey.ofLine? line ≠ some k.permission) :
    ∀ h : Host,
      k.cell (h.applyLines x lines).1.config = (h.settled k ⟨lines⟩).1 ∧
        ((h.applyLines x lines).2.filter fun o => ConfigKey.ofLine? o.1 = some k) =
          (h.settled k ⟨lines⟩).2 := by
  induction lines with
  | nil => exact fun h => ⟨rfl, rfl⟩
  | cons line lines ih =>
    intro h
    obtain ⟨hfirst, hrest⟩ := List.forall_mem_cons.mp hspared
    have hpermission : k.permission.read? (h.applyLine x line).1.config =
        k.permission.read? h.config := read?_applyLine_of_ne hfirst
    obtain ⟨hcell, houtcomes⟩ := ih hrest (h.applyLine x line).1
    rw [settled, hpermission] at hcell houtcomes
    cases hvalue : k.valueIn? line with
    | none =>
      -- the line is on another key
      have hk := ConfigKey.valueIn?_eq_none_iff.mp hvalue
      rw [cell_applyLine_of_ne hk] at hcell houtcomes
      simp only [applyLines, settled, CommandList.writesOn, List.filter_cons,
        List.filterMap_cons, hk, hvalue, Option.map_none, decide_false, Bool.false_eq_true,
        if_false]
      exact ⟨hcell, houtcomes⟩
    | some value =>
      have hk := ConfigKey.isSome_valueIn?_iff.mp (Option.isSome_of_eq_some hvalue)
      have hline := applyLine_of_valueIn? (h := h) (x := x) hvalue
      simp only [applyLines, settled, CommandList.writesOn, List.filter_cons,
        List.filterMap_cons, hk, hvalue, Option.map_some, decide_true, if_true,
        ConfigKey.settle, ← ConfigKey.isLocked_eq_cell]
      cases hlocked : k.isLocked h.config with
      | true =>
        rw [hlocked, if_pos rfl] at hline
        rw [hline] at hcell houtcomes ⊢
        exact ⟨hcell, congrArg (List.cons _) houtcomes⟩
      | false =>
        rw [hlocked, if_neg Bool.false_ne_true] at hline
        rw [hline, ConfigKey.cell_write_self] at hcell houtcomes
        rw [hline]
        exact ⟨hcell, congrArg (List.cons _) houtcomes⟩

/-- A list that does not write a key leaves it. -/
theorem cell_execute_of_linesOn_eq_nil {h : Host} {l : CommandList} (hk : l.linesOn k = []) :
    k.cell (h.execute x l).1.config = k.cell h.config :=
  applyLines_invariant (P := fun h' => k.cell h'.config = k.cell h.config)
    (fun _ _ hline hsame =>
      (cell_applyLine_of_ne (CommandList.linesOn_eq_nil_iff.mp hk _ hline)).trans hsame) rfl

/-- A line that writes no name of a plugin leaves what is forced on it. -/
theorem forced_applyLine {h : Host} {line p : String}
    (hline : ∀ name, ConfigKey.ofLine? line ≠ some (.plugin p name)) :
    (h.applyLine x line).1.config.forced.get? p = h.config.forced.get? p := by
  rcases applyLine_cases h x line with ⟨-, hc⟩ | ⟨j, value, hj, ⟨-, hc, -⟩ | ⟨-, hc, -⟩⟩
  · rw [hc]
  · rw [hc]
  · rw [hc]
    cases j with
    | site name => rfl
    | plugin q name =>
      refine Dictionary.get?_set_of_ne ?_
      rintro rfl
      exact hline name hj

/-- A list that writes no name of a plugin leaves what is forced on it. -/
theorem forced_execute {h : Host} {l : CommandList} {p : String}
    (hp : ∀ name, l.linesOn (.plugin p name) = []) :
    (h.execute x l).1.config.forced.get? p = h.config.forced.get? p :=
  applyLines_invariant (P := fun h' => h'.config.forced.get? p = h.config.forced.get? p)
    (fun _ _ hline hsame =>
      (forced_applyLine fun name =>
        CommandList.linesOn_eq_nil_iff.mp (hp name) _ hline).trans hsame) rfl

end Host

/-! ## Reports -/

namespace ExecutionReport

/-- The rejections of lines that write a key. -/
def rejectedOn (r : ExecutionReport) (k : ConfigKey) : List Rejection :=
  r.rejected.filter fun x => ConfigKey.ofLine? x.line = some k

theorem rejected_of_applied (x : String) (writes : List (String × String)) :
    (ofOutcomes x (writes.map fun write => (write.1, .applied))).rejected = [] := by
  simp [ofOutcomes, List.filterMap_map]

theorem rejected_of_rejected (x : String) (refusal : RejectReason)
    (writes : List (String × String)) :
    (ofOutcomes x (writes.map fun write => (write.1, .rejected refusal))).rejected =
      (writes.map Prod.fst).map fun line => ⟨x, line, refusal⟩ := by
  simp [ofOutcomes, List.filterMap_map, Function.comp_def]

end ExecutionReport

/-- What executing a list leaves of a key, and its rejections on the key. -/
theorem Host.execute_settled {h : Host} {x : String} {l : CommandList} {k : ConfigKey}
    (hspared : l.linesOn k.permission = []) :
    k.cell (h.execute x l).1.config = (h.settled k l).1 ∧
      (h.execute x l).2.rejectedOn k =
        (ExecutionReport.ofOutcomes x (h.settled k l).2).rejected := by
  obtain ⟨hcell, houtcomes⟩ :=
    applyLines_settled (x := x) (CommandList.linesOn_eq_nil_iff.mp hspared) h
  refine ⟨hcell, ?_⟩
  rw [← houtcomes]
  exact ExecutionReport.filter_rejected_ofOutcomes x (fun line => ConfigKey.ofLine? line = some k) _

namespace CommandList

/-- Which value a list leaves of a key, and which lines on the key are rejected. -/
structure Precedence (h : Host) (x : String) (l : CommandList) (k : ConfigKey) : Prop where
  /-- With a permission it is the last value, and none. -/
  permitted : (k.permission.read? h.config).isSome = true →
    (∀ value, (l.valuesOn k).getLast? = some value →
      k.cell (h.execute x l).1.config = ConfigKey.written value) ∧
    (h.execute x l).2.rejectedOn k = []
  /-- A key that is held without one stays as it is, and every line is rejected. -/
  held : k.permission.read? h.config = none → k.isHeld h.config = true →
    k.cell (h.execute x l).1.config = k.cell h.config ∧
    (h.execute x l).2.rejectedOn k = (l.linesOn k).map fun line => ⟨x, line, k.refusal⟩
  /-- Of any other key it is the first value, and every line but the first. -/
  free : k.permission.read? h.config = none → k.isHeld h.config = false →
    (∀ value, (l.valuesOn k).head? = some value →
      k.cell (h.execute x l).1.config = ConfigKey.written value) ∧
    (h.execute x l).2.rejectedOn k = (l.linesOn k).tail.map fun line => ⟨x, line, k.refusal⟩
  /-- A key that the list does not write stays as it is. -/
  unwritten : l.linesOn k = [] → k.cell (h.execute x l).1.config = k.cell h.config

/-- **Which value a key keeps**, if a list leaves its permission alone: the last one with a
permission; without one its own if it is held, and else the first.  What a list does not
write stays, of the site and of every plugin. -/
theorem precedence_law (h : Host) (x : String) (l : CommandList) (k : ConfigKey)
    (hspared : l.linesOn k.permission = []) :
    l.Precedence h x k ∧
      (∀ j : ConfigKey, l.linesOn j = [] → j.cell (h.execute x l).1.config = j.cell h.config) ∧
      ∀ p, (∀ name, l.linesOn (.plugin p name) = []) →
        (h.execute x l).1.config.forced.get? p = h.config.forced.get? p := by
  obtain ⟨hcell, hrejected⟩ := Host.execute_settled (h := h) (x := x) hspared
  refine ⟨⟨fun hpermitted => ?_, fun hnone hheld => ?_, fun hnone hfree => ?_,
    Host.cell_execute_of_linesOn_eq_nil⟩, fun j => Host.cell_execute_of_linesOn_eq_nil,
    fun p => Host.forced_execute⟩
  · rw [Host.settled, hpermitted, ConfigKey.settle_permitted] at hcell hrejected
    refine ⟨fun value hlast => ?_, hrejected.trans (ExecutionReport.rejected_of_applied x _)⟩
    rw [valuesOn] at hlast
    rw [hcell, hlast]
    rfl
  · rw [ConfigKey.isHeld_eq_cell] at hheld
    rw [Host.settled, hnone, Option.isSome_none, ConfigKey.settle_held hheld] at hcell hrejected
    exact ⟨hcell, hrejected.trans (ExecutionReport.rejected_of_rejected x _ _)⟩
  · rw [ConfigKey.isHeld_eq_cell] at hfree
    rw [Host.settled, hnone, Option.isSome_none] at hcell hrejected
    rw [valuesOn, linesOn]
    cases hwrites : l.writesOn k with
    | nil =>
      rw [hwrites] at hrejected
      exact ⟨by rintro value ⟨⟩, hrejected⟩
    | cons write writes =>
      rw [hwrites, ConfigKey.settle_free hfree] at hcell hrejected
      refine ⟨?_, hrejected.trans (ExecutionReport.rejected_of_rejected x _ _)⟩
      rintro value ⟨⟩
      exact hcell

end CommandList

/-- A site that fixed its theme, and its level of debugging with a permission. -/
def SiteConfig.lenient : SiteConfig :=
  { SiteConfig.empty with
    fixed := .ofList [("theme", "boost"), ("debug", "0"), ("debug_allow_abconfig", "1")] }

/-- Commands on a theme, a level of debugging and a language. -/
def CommandList.settings : CommandList :=
  ⟨["CFG,theme,classic", "CFG,debug,1", "CFG,lang,en", "CFG,debug,2", "CFG,lang,de"]⟩

/-- The site keeps its theme, and takes the last level of debugging and the first
language. -/
theorem settings_precedence :
    let h : Host := { Host.empty with config := .lenient }
    let c := (h.execute "exp1" .settings).1.config
    (ConfigKey.site "theme").cell c = (none, some "boost") ∧
      (ConfigKey.site "debug").cell c = ConfigKey.written "2" ∧
      (ConfigKey.site "lang").cell c = ConfigKey.written "en" := by
  intro h c
  have htheme := (CommandList.precedence_law h "exp1" .settings (.site "theme") (by decide)).1
  have hdebug := (CommandList.precedence_law h "exp1" .settings (.site "debug") (by decide)).1
  have hlang := (CommandList.precedence_law h "exp1" .settings (.site "lang") (by decide)).1
  exact ⟨(htheme.held rfl rfl).1, (hdebug.permitted rfl).1 "2" (by decide),
    (hlang.free rfl rfl).1 "en" (by decide)⟩

end SplitTest

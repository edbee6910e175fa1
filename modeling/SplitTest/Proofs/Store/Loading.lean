import SplitTest.Proofs.Store.Frame

/-!
# Loading through a cache

A loader may use the cache that it loads for: invalidate it, look at it, and load through it
with other loaders, to any depth (`Loader`).  The generation of the cache then counts the
invalidations, those of nested loaders included (`Loader.generation_run`), so the one
comparison that is made after a load tells whether anything was invalidated during it.

From this follows what a load leaves behind (`load_law`): the value that was loaded, if
nothing was invalidated, and nothing at all otherwise, whatever a nested load had kept.  The
manager loads its dataset in the same way (`Action.snapshot_eq_getOrLoad`).
-/

namespace SplitTest.Store

/-- What a loader does to the cache before it answers.  What it does next may depend on
whatever it was told so far. -/
inductive Loader (α ε : Type) where
  /-- Answer a value, or fail. -/
  | answer (r : Except ε α)
  /-- Invalidate the cache and go on. -/
  | invalidate (rest : Loader α ε)
  /-- Look at what the cache holds and go on. -/
  | look (rest : Option α → Loader α ε)
  /-- Load through the cache with another loader and go on. -/
  | load (inner : Loader α ε) (rest : Except ε α → Loader α ε)

namespace Loader
variable {α ε : Type}

/-- Run a loader on a cache. -/
def run : Loader α ε → Cache α → Except ε α × Cache α
  | answer r, c => (r, c)
  | invalidate rest, c => rest.run c.invalidate
  | look rest, c => (rest c.entry).run c
  | load inner rest, c =>
    (rest ((c.getOrLoad inner.run).1.map Prod.fst)).run (c.getOrLoad inner.run).2

/-- How often a loader that runs on a cache invalidates it.  A nested loader counts if it is
called, and it is called if the cache is empty. -/
def invalidations : Loader α ε → Cache α → Nat
  | answer _, _ => 0
  | invalidate rest, c => rest.invalidations c.invalidate + 1
  | look rest, c => (rest c.entry).invalidations c
  | load inner rest, c =>
    (if c.entry.isNone then inner.invalidations c else 0) +
      (rest ((c.getOrLoad inner.run).1.map Prod.fst)).invalidations (c.getOrLoad inner.run).2

end Loader

namespace Cache
variable {α ε : Type} {c : Cache α} {f : Cache α → Except ε α × Cache α}

/-- **A cache that holds a value does not call the loader.** -/
theorem getOrLoad_of_some {a : α} (h : c.entry = some a)
    (f : Cache α → Except ε α × Cache α) : c.getOrLoad f = (.ok (a, .hit), c) := by
  rw [getOrLoad, h]

theorem getOrLoad_of_error {e : ε} {c' : Cache α} (h : c.entry = none)
    (hf : f c = (.error e, c')) : c.getOrLoad f = (.error e, c') := by
  rw [getOrLoad, h, hf]

theorem getOrLoad_of_ok {a : α} {c' : Cache α} (h : c.entry = none) (hf : f c = (.ok a, c')) :
    c.getOrLoad f =
      if c'.generation = c.generation then (.ok (a, .rebuilt), ⟨some a, c.generation⟩)
      else (.ok (a, .overlapped), ⟨none, c'.generation⟩) := by
  rw [getOrLoad, h, hf]
  simp only [settle]
  split
  · next hsame => rw [insert, hsame]
  · rfl

/-- Loading by itself invalidates nothing. -/
theorem generation_getOrLoad (h : c.entry = none) :
    (c.getOrLoad f).2.generation = (f c).2.generation := by
  cases hf : f c with
  | mk r c' =>
    cases r with
    | error e => rw [getOrLoad_of_error h hf]
    | ok a =>
      rw [getOrLoad_of_ok h hf]
      split
      · next hsame => exact hsame.symm
      · rfl

end Cache

/-- **The generation counts the invalidations**, those of nested loaders included. -/
theorem Loader.generation_run {α ε : Type} (l : Loader α ε) (c : Cache α) :
    (l.run c).2.generation = c.generation + l.invalidations c := by
  induction l generalizing c with
  | answer r => rfl
  | invalidate rest ih =>
    rw [run, ih, invalidations]
    show c.generation + 1 + _ = _
    omega
  | look rest ih => rw [run, ih, invalidations]
  | load inner rest ihInner ihRest =>
    rw [run, ihRest, invalidations, ← Nat.add_assoc]
    congr 1
    cases h : c.entry with
    | some a => rw [Cache.getOrLoad_of_some h]; rfl
    | none => rw [Cache.generation_getOrLoad h, ihInner]; rfl

/-! ## The snapshot of a manager -/

theorem Action.lifetime_loadDataset (m : Manager) :
    (Action.loadDataset.runOn m).2.lifetime = m.lifetime :=
  Action.within_loadDataset (R := fun m m' => m'.lifetime = m.lifetime)
    ⟨fun hab hbc => hbc.trans hab, fun _ _ _ _ => rfl⟩ m

/-- **A manager takes its dataset from the cache, or loads it through the cache**, unless the
cache is to keep nothing. -/
theorem Action.snapshot_eq_getOrLoad {m : Manager} (h : m.lifetime ≠ some 0) :
    let f : Cache Dataset → Except StoreError Dataset × Cache Dataset := fun _ =>
      ((loadDataset.runOn m).1, (loadDataset.runOn m).2.cache)
    (snapshot.runOn m).1 = (m.cache.getOrLoad f).1.map Prod.fst ∧
      (snapshot.runOn m).2.cache = (m.cache.getOrLoad f).2 := by
  intro f
  cases hentry : m.cache.entry with
  | some d =>
    rw [runOn_snapshot_of_some hentry, Cache.getOrLoad_of_some hentry]
    exact ⟨rfl, rfl⟩
  | none =>
    have hlifetime := lifetime_loadDataset m
    cases hload : loadDataset.runOn m with
    | mk r m' =>
      rw [hload] at hlifetime
      cases r with
      | error e =>
        have hf : f m.cache = (.error e, m'.cache) := by simp only [f, hload]
        rw [runOn_snapshot_of_error hentry hload, Cache.getOrLoad_of_error hentry hf]
        exact ⟨rfl, rfl⟩
      | ok d =>
        have hf : f m.cache = (.ok d, m'.cache) := by simp only [f, hload]
        obtain ⟨event, hsnapshot⟩ := runOn_snapshot_of_none hentry hload
        have hkeep : ((m'.keep (m'.cache.settle m.cache.generation d).2).report event).cache =
            (m'.cache.settle m.cache.generation d).2 :=
          if_neg fun hzero => h (hlifetime.symm.trans hzero)
        rw [hsnapshot, hkeep, Cache.getOrLoad, hentry, hf]
        exact ⟨rfl, rfl⟩

/-! ## The law -/

/-- **A load that overlaps an invalidation keeps nothing.**  A cache that holds a value answers
it and calls no loader.  An empty cache runs the loader and passes on its answer.  If the loader
fails, the cache is as the loader left it.  If it gives a value, the cache holds exactly this
value when nothing was invalidated meanwhile, and nothing otherwise.  The generation grows by
one with every invalidation; a counter of 64 bits, too, has moved exactly when something was
invalidated, as long as one load does not overlap so many invalidations that it comes round. -/
theorem load_law {α ε : Type} (l : Loader α ε) (c : Cache α) :
    (l.run c).2.generation = c.generation + l.invalidations c ∧
      (l.invalidations c < UInt64.size →
        ((l.run c).2.generation % UInt64.size = c.generation % UInt64.size ↔
          l.invalidations c = 0)) ∧
      (∀ a, c.entry = some a → ∀ f : Cache α → Except ε α × Cache α,
        c.getOrLoad f = (.ok (a, .hit), c)) ∧
      (c.entry = none → ∀ e c', l.run c = (.error e, c') →
        c.getOrLoad l.run = (.error e, c')) ∧
      (c.entry = none → ∀ a c', l.run c = (.ok a, c') → l.invalidations c = 0 →
        c.getOrLoad l.run = (.ok (a, .rebuilt), ⟨some a, c.generation⟩)) ∧
      (c.entry = none → ∀ a c', l.run c = (.ok a, c') → l.invalidations c ≠ 0 →
        c.getOrLoad l.run =
          (.ok (a, .overlapped), ⟨none, c.generation + l.invalidations c⟩)) := by
  have hcount := l.generation_run c
  refine ⟨hcount, fun hfew => ?_, fun a h f => Cache.getOrLoad_of_some h f,
    fun h e c' hrun => Cache.getOrLoad_of_error h hrun, fun h a c' hrun hnone => ?_,
    fun h a c' hrun hsome => ?_⟩
  · rw [UInt64.size] at hfew
    rw [hcount, UInt64.size]
    omega
  · rw [hrun, hnone] at hcount
    have hsame : c'.generation = c.generation := hcount
    rw [Cache.getOrLoad_of_ok h hrun, if_pos hsame]
  · rw [hrun] at hcount
    have hmoved : c'.generation ≠ c.generation := by
      rw [hcount]
      omega
    rw [Cache.getOrLoad_of_ok h hrun, if_neg hmoved, hcount]

/-- A loader that loads through the cache, invalidates it, loads through it once more and then
answers what it was told first. -/
def Loader.overlapped : Loader Nat Unit :=
  .load (.answer (.ok 1)) fun first =>
    .invalidate <| .load (.answer (.ok 2)) fun _ => .answer first

/-- What its nested loads kept is gone after it. -/
theorem overlapped_keeps_nothing :
    Loader.overlapped.run .empty = (.ok 1, ⟨some 2, 1⟩) ∧
      Cache.empty.getOrLoad Loader.overlapped.run = (.ok (1, .overlapped), ⟨none, 1⟩) :=
  ⟨rfl, (load_law .overlapped .empty).2.2.2.2.2 rfl 1 ⟨some 2, 1⟩ rfl (by decide)⟩

end SplitTest.Store

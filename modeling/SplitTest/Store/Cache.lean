/-!
# The cache

A cache keeps at most one value and counts how often it was invalidated, its
generation.  A value that is missing is loaded and kept, unless the cache was
invalidated while it was being loaded: then what was read may be out of date, and
nothing is kept.
-/

namespace SplitTest.Store

/-- A cache of one value. -/
structure Cache (α : Type) where
  /-- The value, if it is known. -/
  entry : Option α
  /-- How often the cache was invalidated. -/
  generation : Nat
deriving DecidableEq, Repr

/-- How a cache came by a value. -/
inductive CacheOutcome where
  /-- It had it. -/
  | hit
  /-- It loaded and kept it. -/
  | rebuilt
  /-- It loaded it, but did not keep it. -/
  | overlapped
deriving DecidableEq, Repr

namespace Cache
variable {α ε : Type}

/-- The cache that knows nothing. -/
def empty : Cache α := ⟨none, 0⟩

instance : Inhabited (Cache α) := ⟨empty⟩

/-- Whether the value is known. -/
def contains (c : Cache α) : Bool := c.entry.isSome

/-- The cache with a value. -/
def insert (c : Cache α) (a : α) : Cache α := { c with entry := some a }

/-- The cache that forgot its value. -/
def invalidate (c : Cache α) : Cache α := ⟨none, c.generation + 1⟩

/-- The cache after loading a value, begun at generation `started`: the value is kept
unless the generation has moved on. -/
def settle (c : Cache α) (started : Nat) (a : α) : CacheOutcome × Cache α :=
  if c.generation = started then (.rebuilt, c.insert a)
  else (.overlapped, { c.insert a with entry := none })

/-- The value of the cache, loaded if it is missing.  The loader may use the cache
itself, which it takes and gives back. -/
def getOrLoad (c : Cache α) (load : Cache α → Except ε α × Cache α) :
    Except ε (α × CacheOutcome) × Cache α :=
  match c.entry with
  | some a => (.ok (a, .hit), c)
  | none =>
    match load c with
    | (.error e, c') => (.error e, c')
    | (.ok a, c') =>
      let (outcome, c'') := c'.settle c.generation a
      (.ok (a, outcome), c'')

end Cache

end SplitTest.Store

import SplitTest.Experiment
import SplitTest.CommandList
import SplitTest.Net.AllowList

/-!
# Conditions

A condition is one of the choices of an experiment: a weight, the users it is
restricted to, the addresses exempt from it, and the commands that run when it is
chosen.
-/

namespace SplitTest

/-- `n` put into an increasing list. -/
def insertIncreasing (n : Int) : List Int → List Int
  | [] => [n]
  | m :: ms => if n < m then n :: m :: ms else if n = m then m :: ms else m :: insertIncreasing n ms

theorem mem_insertIncreasing {n k : Int} :
    ∀ {ms : List Int}, k ∈ insertIncreasing n ms ↔ k = n ∨ k ∈ ms
  | [] => by simp [insertIncreasing]
  | m :: ms => by
    unfold insertIncreasing
    split
    · simp
    · split
      · next h => subst h; simp
      · simp only [List.mem_cons, @mem_insertIncreasing n k ms]
        exact ⟨fun h => by rcases h with h | h | h <;> simp [h],
          fun h => by rcases h with h | h | h <;> simp [h]⟩

theorem pairwise_insertIncreasing {n : Int} :
    ∀ {ms : List Int}, ms.Pairwise (· < ·) → (insertIncreasing n ms).Pairwise (· < ·)
  | [], _ => by simp [insertIncreasing]
  | m :: ms, h => by
    obtain ⟨hm, hms⟩ := List.pairwise_cons.1 h
    unfold insertIncreasing
    split
    · next hn =>
      refine List.pairwise_cons.2 ⟨fun k hk => ?_, h⟩
      rcases List.mem_cons.1 hk with rfl | hk
      · exact hn
      · exact Int.lt_trans hn (hm k hk)
    · split
      · exact h
      · next h₁ h₂ =>
        refine List.pairwise_cons.2 ⟨fun k hk => ?_, pairwise_insertIncreasing hms⟩
        rcases mem_insertIncreasing.1 hk with rfl | hk
        · omega
        · exact hm k hk

/-- A set of users, as the increasing list of their numbers. -/
structure UserSet where
  /-- The users, each once and in increasing order. -/
  ids : List Int
  /-- The order. -/
  increasing : ids.Pairwise (· < ·)
deriving DecidableEq, Repr

namespace UserSet

/-- The set without users. -/
def empty : UserSet := ⟨[], .nil⟩

instance : EmptyCollection UserSet := ⟨empty⟩
instance : Inhabited UserSet := ⟨empty⟩

/-- The set with one more user. -/
def insert (s : UserSet) (n : Int) : UserSet :=
  ⟨insertIncreasing n s.ids, pairwise_insertIncreasing s.increasing⟩

/-- The users of a list. -/
def ofList (ns : List Int) : UserSet := ns.foldl insert empty

/-- Whether a user is in the set. -/
def contains (s : UserSet) (n : Int) : Bool := s.ids.contains n

/-- Whether no user is in the set. -/
def isEmpty (s : UserSet) : Bool := s.ids.isEmpty

end UserSet

/-- Number of a condition in the store. -/
@[ext] structure ConditionId where
  /-- The number. -/
  value : Int
deriving DecidableEq, Repr, Inhabited

/-- A condition. -/
structure Condition where
  /-- Number in the store. -/
  id : ConditionId
  /-- The experiment it belongs to. -/
  experimentId : ExperimentId
  /-- Name that identifies it within its experiment. -/
  condset : String
  /-- The addresses exempt from it. -/
  allowList : Net.AllowList
  /-- What runs when it is chosen. -/
  commands : CommandList
  /-- Its share of a hundred. -/
  weight : Nat
  /-- The users it is restricted to; everyone if there are none. -/
  users : UserSet
deriving DecidableEq, Repr, Inhabited

/-- Whether a set of targeted users takes in a requester. -/
def UserSet.targets (s : UserSet) (user : Option Int) : Bool :=
  s.isEmpty || user.any s.contains

end SplitTest

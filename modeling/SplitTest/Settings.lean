import SplitTest.Text.Upper

/-!
# Settings

The settings of the evaluation: the names and prefixes by which requests,
environments and sessions refer to experiments, and the limits of the dataset
cache.
-/

namespace SplitTest

/-- The settings of the evaluation. -/
structure Settings where
  /-- Parameter that switches experiments off. -/
  disableParam : String
  /-- What environment variables of experiments start with. -/
  envStart : String
  /-- What session keys of experiments start with. -/
  sessionKeyStart : String
  /-- Capacity of the dataset cache. -/
  cacheCapacity : Nat
  /-- Lifetime of a cached dataset in seconds; none for unlimited. -/
  cacheLifetime : Option Nat
deriving DecidableEq, Repr

namespace Settings

/-- The settings of a site that says nothing. -/
def standard : Settings where
  disableParam := "abconfig"
  envStart := "ABCONFIG_"
  sessionKeyStart := "abconfig_"
  cacheCapacity := 16
  cacheLifetime := none

instance : Inhabited Settings := ⟨standard⟩

/-- The session key that holds the decision of an experiment. -/
def sessionKey (s : Settings) (shortname : String) : String := s.sessionKeyStart ++ shortname

/-- The environment variable that overrides an experiment. -/
def envVar (s : Settings) (shortname : String) : String := s.envStart ++ Text.uppercased shortname

end Settings

end SplitTest

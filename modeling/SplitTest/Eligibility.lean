import SplitTest.Dataset
import SplitTest.Request

/-!
# Eligibility

Who takes part in what: an experiment leaves administrators out unless it is open
to them, and a condition leaves out the addresses on its allow-list and, where
users can be targeted, everyone but the users it names.  Device experiments know
neither immunity nor users, so a device keeps its bucket whoever uses it.
-/

namespace SplitTest

/-- Whether an experiment applies to a requester. -/
def Experiment.appliesTo (e : Experiment) (r : Requester) : Bool :=
  !(e.scope.adminImmune && r.isAdmin && !e.adminEnabled)

/-- Whether a condition of an experiment of scope `s` is open to a requester. -/
def Condition.isEligible (c : Condition) (s : Scope) (r : Requester) : Bool :=
  (!s.userTargeting || c.users.targets r.userId) && !c.allowList.containsClient r.address

/-- The conditions of an entry that are open to a requester, in order. -/
def Entry.eligible (e : Entry) (r : Requester) : List Condition :=
  e.conditions.items.filter fun c => c.isEligible e.scope r

end SplitTest

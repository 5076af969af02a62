import CloudGraph.Check.Configuration
import CloudGraph.Check.Connectivity
import CloudGraph.Check.Cost
import CloudGraph.Check.Security

/-!
# The suites of checks

Each suite runs on its own; a full run has them in a fixed order.
-/

namespace CloudGraph

def Suite.checks (suite : Suite) (g : Graph) (limits : CostLimits) : List Check :=
  match suite with
  | .connectivity => Connectivity.checks g
  | .security => Security.checks g
  | .cost => Cost.checks g limits
  | .configuration => Redundancy.checks g

/-- All checks of a graph. -/
def runChecks (g : Graph) (limits : CostLimits) : List Check :=
  Suite.all.flatMap (·.checks g limits)

end CloudGraph

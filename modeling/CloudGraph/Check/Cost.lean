import CloudGraph.Check.Basic
import CloudGraph.Decimal.Places
import CloudGraph.Rule.Pattern

/-!
# Cost checks

A rough estimate of the monthly cost against a ceiling, and the sizes of compute nodes. A node
costs as much as the dearest of its roles, for each of its copies.
-/

namespace CloudGraph

/-- The ceiling of the monthly cost, and the share of it from which an estimate is a warning. -/
structure CostLimits where
  monthlyCeiling : Float := 5000.0
  warningRatio : Float := 0.8
deriving DecidableEq

namespace Cost

/-- The cost of a node that holds no role. -/
def defaultUnit : Float := 20.0

def roleUnit : Role → Float
  | .compute => 150.0
  | .backend => 100.0
  | .database => 400.0
  | .cache => 120.0
  | .loadBalancer => 25.0
  | .storage => 30.0
  | .backup => 50.0
  | .firewall => 10.0
  | .waf => 30.0
  | .cdn => 40.0
  | .monitoring => 15.0
  | .frontend => 10.0
  | .container => 0.0

/-- The monthly cost of one copy of a component. -/
def unit (componentType : String) : Float :=
  match Role.ofType componentType with
  | [] => defaultUnit
  | roles => (roles.map roleUnit).foldl (fun a b => if a < b then b else a) 0.0

def nodeCost (n : Node) : Float :=
  unit n.componentType * Decimal.ofDecimal false n.view.replicas.toNat 0

/-- The sum of the costs, in declaration order. A sum of nothing is a negative zero. -/
def estimate (g : Graph) : Float :=
  (g.nodes.map nodeCost).foldl (· + ·) (-0.0)

/-- An amount of money: two decimal places. -/
def money (x : Float) : String :=
  Decimal.fixed 2 x

def estimateStatus (limits : CostLimits) (estimate : Float) : Status :=
  if limits.monthlyCeiling < estimate then .fail
  else if limits.monthlyCeiling * limits.warningRatio < estimate then .warning
  else .pass

def estimateCheck (g : Graph) (limits : CostLimits) : Check where
  id := "cost-monthly-estimate"
  name := "Monthly cost estimate"
  suite := .cost
  status := estimateStatus limits (estimate g)
  message := "Estimated $" ++ money (estimate g) ++ "/month against a $"
    ++ money limits.monthlyCeiling ++ " ceiling"
  details := some (toString g.nodes.length ++ " resource(s) priced")

/-- The verdict on a node's size, if it states one. -/
def sizeCheck? (n : Node) : Option Check :=
  n.view.instanceSize?.map fun size =>
    let large := isListed largeInstanceSizes size
    { id := "cost-instance-size:" ++ n.id
      name := "Instance size"
      suite := .cost
      status := if large then .warning else .pass
      message := n.displayName ++ (if large then " uses oversized SKU " else " uses SKU ") ++ size
      affected := [n.id] }

def checks (g : Graph) (limits : CostLimits) : List Check :=
  if g.isEmpty then []
  else estimateCheck g limits :: (g.withRole .compute).filterMap sizeCheck?

end Cost

end CloudGraph

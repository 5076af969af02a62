import CloudGraph.Check.Basic
import CloudGraph.Rule.Pattern

/-!
# Connectivity checks

Every frontend reaches a backend and every backend a database, load balancers spread their
traffic, and no node stands alone. A tier is checked only if the tier behind it exists.
-/

namespace CloudGraph.Connectivity

/-- Roles whose nodes need no edge. -/
def edgelessRoles : List Role := [.container, .backup, .monitoring]

/-- A requirement that every node of one role reaches some node of another. -/
structure Tier where
  source : Role
  target : Role
  id : String
  name : String

def frontendTier : Tier :=
  ⟨.frontend, .backend, "conn-frontend-backend", "Frontend reaches backend"⟩

def backendTier : Tier := ⟨.backend, .database, "conn-backend-database", "Backend reaches database"⟩

def Tier.check (t : Tier) (g : Graph) (n : Node) : Check :=
  match g.reachable? n.id (·.hasRole t.target) with
  | some target => {
      id := t.id ++ ":" ++ n.id
      name := t.name
      suite := .connectivity
      status := .pass
      message := n.displayName ++ " reaches " ++ t.target.name ++ " " ++ target.displayName
      affected := [n.id, target.id] }
  | none => {
      id := t.id ++ ":" ++ n.id
      name := t.name
      suite := .connectivity
      status := .fail
      message := n.displayName ++ " has no path to any " ++ t.target.name ++ " node"
      details := some ("Add an edge from " ++ n.id ++ " toward a " ++ t.target.name ++ " node.")
      affected := [n.id] }

def Tier.checks (t : Tier) (g : Graph) : List Check :=
  if g.hasRole t.target then (g.withRole t.source).map (t.check g) else []

/-- Drop repeated texts, keeping the first of each. -/
def distinct (xs : List String) : List String :=
  xs.foldl (fun seen x => if seen.contains x then seen else seen ++ [x]) []

/-- The compute nodes that a load balancer feeds, each once. -/
def fanOutTargets (g : Graph) (lb : Node) : List String :=
  distinct (((g.outgoing lb.id).filter (·.hasRole .compute)).map (·.id))

def fanOutCheck (g : Graph) (lb : Node) : Check :=
  let targets := fanOutTargets g lb
  let (status, message) : Status × String := match targets.length with
    | 0 => (.fail, " does not route to any compute node")
    | 1 => (.warning, " routes to a single compute node")
    | n => (.pass, " distributes traffic across " ++ toString n ++ " compute nodes")
  { id := "conn-lb-fan-out:" ++ lb.id
    name := "Load balancer fan-out"
    suite := .connectivity
    status
    message := lb.displayName ++ message
    affected := lb.id :: targets }

def fanOutChecks (g : Graph) : List Check :=
  if g.hasRole .compute then (g.withRole .loadBalancer).map (fanOutCheck g) else []

/-- The nodes that ought to have an edge. -/
def edgeCandidates (g : Graph) : List Node :=
  g.nodes.filter fun n => !n.hasAnyRole edgelessRoles

def orphans (g : Graph) : List Node :=
  (edgeCandidates g).filter fun n => (g.edgesTouching n.id).isEmpty

/-- One verdict for the whole graph. -/
def orphanChecks (g : Graph) : List Check :=
  if (edgeCandidates g).isEmpty then []
  else
    let found := orphans g
    [{ id := "conn-orphans"
       name := "Orphaned resources"
       suite := .connectivity
       status := if found.isEmpty then .pass else .warning
       message :=
         if found.isEmpty then "Every resource is connected"
         else "Unconnected resources: " ++ ", ".intercalate (found.map (·.displayName))
       affected := found.map (·.id) }]

def checks (g : Graph) : List Check :=
  frontendTier.checks g ++ backendTier.checks g ++ fanOutChecks g ++ orphanChecks g

end CloudGraph.Connectivity

import CloudGraph.Rule.Basic

/-!
# Heuristic rules

Rules that belong to no framework. Where a pattern looks at single nodes, each offender has a
finding of its own.
-/

namespace CloudGraph

namespace Rule

def heuristic (id title : String) (severity : Severity) (category : RuleCategory)
    (pattern : Pattern) (description remediation : String) : Rule :=
  { id, title, description, severity, category, remediation, references := [],
    autoFixable := false, scope := .perNode, pattern }

def securityHeuristics : List Rule := [
  heuristic "sec-public-database" "Database exposed publicly" .critical .security
    (.configFlag [.database, .cache] .publicAccess .isTrue)
    "The data store accepts connections from the public internet."
    "Disable public access and use private networking.",
  heuristic "sec-unencrypted-storage" "Storage without encryption" .high .security
    (.configFlag [.storage, .database] .encryption .isNotTrue)
    "Data at rest is not encrypted."
    "Set encryption to true for this resource.",
  heuristic "sec-missing-firewall" "Compute without a firewall" .high .security
    (.roleAbsence [.compute] .firewall)
    "Compute resources exist but no firewall or security group is defined."
    "Add a network security group and attach it to the compute subnet.",
  heuristic "sec-lb-without-tls" "Load balancer without TLS" .high .security
    (.configFlag [.loadBalancer] .tls .isNotTrue)
    "The load balancer does not terminate TLS."
    "Enable an HTTPS listener.",
  heuristic "sec-public-storage" "Storage bucket is public" .critical .security
    (.configFlag [.storage] .publicAccess .isTrue)
    "Objects in this storage resource can be read anonymously."
    "Block public access on the bucket or account."]

def costHeuristics : List Rule := [
  heuristic "cost-oversized-instance" "Oversized instance size" .medium .cost
    (.cardinality [.compute, .database] largeInstanceSizes 0)
    "Instances use very large SKUs that are rarely needed at launch."
    "Right-size the instances and scale out instead of up.",
  heuristic "cost-idle-resource" "Potentially idle resource" .low .cost
    (.isolation [.container, .backup, .monitoring])
    "The resource has no connections and may be idle or orphaned."
    "Connect the resource to its consumers or remove it."]

def reliabilityHeuristics : List Rule := [
  heuristic "rel-no-backup" "No backup strategy" .critical .reliability
    (.roleAbsence [.database] .backup)
    "Databases exist but nothing backs them up."
    "Add a backup service with a retention policy.",
  heuristic "rel-single-point-of-failure" "Single point of failure" .high .reliability
    (.singlePointOfFailure .compute)
    "All compute resources run a single replica."
    "Increase replicas to at least two.",
  heuristic "rel-replicas-without-lb" "Replicas without load balancer" .medium .reliability
    (.unbalancedReplicas .compute .loadBalancer)
    "Multiple replicas are deployed but no load balancer distributes traffic."
    "Add a load balancer in front of the replicas.",
  heuristic "rel-database-no-ha" "Database without high availability" .medium .reliability
    (.configFlag [.database] .highAvailability .isNotTrue)
    "The database has no replication or standby."
    "Enable high availability or a read replica."]

def performanceHeuristics : List Rule := [
  heuristic "perf-no-cache" "Database without cache" .low .performance
    (.roleAbsence [.database] .cache)
    "Every read goes to the database; no caching layer exists."
    "Add a cache in front of read-heavy queries.",
  heuristic "perf-no-cdn" "Frontend without CDN" .low .performance
    (.roleAbsence [.frontend] .cdn)
    "Static assets are served without a content delivery network."
    "Serve the frontend through a CDN."]

/-- All heuristic rules, in the order they run. -/
def heuristics : List Rule :=
  securityHeuristics ++ costHeuristics ++ reliabilityHeuristics ++ performanceHeuristics

end Rule

end CloudGraph

import CloudGraph.Catalog.Entries

/-!
# Roles

Rules and checks ask what a component is for, never which product it is. A role is a list of
component types, and a type may hold several roles; the match is exact.
-/

namespace CloudGraph

inductive Role where
  | database | cache | loadBalancer | backup | firewall | compute | backend
  | frontend | storage | monitoring | cdn | waf | container
deriving DecidableEq, Repr

namespace Role

def all : List Role := [
  .database, .cache, .loadBalancer, .backup, .firewall, .compute, .backend, .frontend,
  .storage, .monitoring, .cdn, .waf, .container]

def name : Role → String
  | .database => "database"
  | .cache => "cache"
  | .loadBalancer => "load-balancer"
  | .backup => "backup"
  | .firewall => "firewall"
  | .compute => "compute"
  | .backend => "backend"
  | .frontend => "frontend"
  | .storage => "storage"
  | .monitoring => "monitoring"
  | .cdn => "cdn"
  | .waf => "waf"
  | .container => "container"

def ofName? (name : String) : Option Role :=
  all.find? (·.name == name)

/-- The component types that hold the role. -/
def typeKeys : Role → List String
  | .database => [
      "aws-rds", "aws-aurora", "aws-dynamodb", "azure-sql", "azure-cosmosdb", "azure-postgresql",
      "gcp-cloud-sql", "gcp-firestore", "database"]
  | .cache => ["aws-elasticache", "azure-redis", "gcp-memorystore", "cache"]
  | .loadBalancer => [
      "aws-elb", "aws-alb", "azure-load-balancer", "azure-app-gateway", "gcp-load-balancer",
      "load-balancer"]
  | .backup => ["aws-backup", "azure-backup", "gcp-backup-dr", "backup"]
  | .firewall => ["aws-security-group", "azure-nsg", "azure-firewall", "gcp-firewall", "firewall"]
  | .compute => [
      "aws-ec2", "aws-ecs", "aws-eks", "azure-vm", "azure-aks", "gcp-compute-engine", "gcp-gke",
      "virtual-machine"]
  | .backend => [
      "api-server", "aws-lambda", "aws-ecs", "azure-app-service", "azure-functions",
      "gcp-cloud-run", "gcp-cloud-functions"]
  | .frontend => ["web-frontend", "mobile-app", "azure-static-web-app"]
  | .storage => [
      "aws-s3", "aws-efs", "azure-storage", "azure-blob-storage", "gcp-cloud-storage",
      "object-storage"]
  | .monitoring => ["aws-cloudwatch", "azure-monitor", "gcp-cloud-monitoring", "monitoring"]
  | .cdn => ["aws-cloudfront", "azure-cdn", "azure-front-door", "gcp-cloud-cdn", "cdn"]
  | .waf => ["aws-waf", "azure-waf-policy", "gcp-cloud-armor", "waf"]
  | .container => [
      "aws-vpc", "aws-subnet", "azure-vnet", "azure-subnet", "azure-resource-group", "gcp-vpc"]

def holds (role : Role) (componentType : String) : Bool :=
  role.typeKeys.contains componentType

/-- Every role that a component type holds, in the order of `all`. -/
def ofType (componentType : String) : List Role :=
  all.filter (·.holds componentType)

end Role

end CloudGraph

import CloudGraph.Catalog.Kind
import CloudGraph.Json.Basic

/-!
# The component catalog

Each known component type has one entry with its display name, provider, category and a rough
band of monthly cost. `Catalog.find?` looks a type up; names match exactly.
-/

namespace CloudGraph

/-- A band of monthly cost. -/
structure CostRange where
  minMonthly : Float
  maxMonthly : Float
  currency : String
deriving DecidableEq

def CostRange.usd (minMonthly maxMonthly : Float) : CostRange :=
  ⟨minMonthly, maxMonthly, "USD"⟩

/-- The middle of the band. -/
def CostRange.midpoint (range : CostRange) : Float :=
  (range.minMonthly + range.maxMonthly) / 2

structure CatalogEntry where
  componentType : String
  displayName : String
  provider : Provider
  category : Category
  cost : CostRange
deriving DecidableEq

def CatalogEntry.toJson (e : CatalogEntry) : Json :=
  .obj [
    ("componentType", .str e.componentType),
    ("displayName", .str e.displayName),
    ("provider", .str e.provider.name),
    ("category", .str e.category.name),
    ("costRange", .obj [
      ("minMonthly", .ofFloat e.cost.minMonthly),
      ("maxMonthly", .ofFloat e.cost.maxMonthly),
      ("currency", .str e.cost.currency)])]

namespace Catalog

def awsEntries : List CatalogEntry := [
  ⟨"aws-ec2", "EC2 Instance", .aws, .compute, .usd 8.0 2500.0⟩,
  ⟨"aws-lambda", "Lambda Function", .aws, .compute, .usd 0.0 200.0⟩,
  ⟨"aws-ecs", "ECS Service", .aws, .compute, .usd 30.0 1500.0⟩,
  ⟨"aws-eks", "EKS Cluster", .aws, .compute, .usd 73.0 5000.0⟩,
  ⟨"aws-rds", "RDS Database", .aws, .database, .usd 15.0 4000.0⟩,
  ⟨"aws-aurora", "Aurora Cluster", .aws, .database, .usd 60.0 6000.0⟩,
  ⟨"aws-dynamodb", "DynamoDB Table", .aws, .database, .usd 1.0 1000.0⟩,
  ⟨"aws-elasticache", "ElastiCache", .aws, .database, .usd 12.0 2000.0⟩,
  ⟨"aws-s3", "S3 Bucket", .aws, .storage, .usd 1.0 500.0⟩,
  ⟨"aws-efs", "EFS File System", .aws, .storage, .usd 3.0 800.0⟩,
  ⟨"aws-elb", "Classic Load Balancer", .aws, .network, .usd 18.0 100.0⟩,
  ⟨"aws-alb", "Application Load Balancer", .aws, .network, .usd 16.0 150.0⟩,
  ⟨"aws-vpc", "VPC", .aws, .container, .usd 0.0 0.0⟩,
  ⟨"aws-subnet", "Subnet", .aws, .container, .usd 0.0 0.0⟩,
  ⟨"aws-security-group", "Security Group", .aws, .security, .usd 0.0 0.0⟩,
  ⟨"aws-waf", "WAF Web ACL", .aws, .security, .usd 5.0 300.0⟩,
  ⟨"aws-kms", "KMS Key", .aws, .security, .usd 1.0 30.0⟩,
  ⟨"aws-backup", "AWS Backup Vault", .aws, .storage, .usd 5.0 400.0⟩,
  ⟨"aws-cloudwatch", "CloudWatch", .aws, .monitoring, .usd 3.0 300.0⟩,
  ⟨"aws-cloudfront", "CloudFront Distribution", .aws, .network, .usd 1.0 600.0⟩,
  ⟨"aws-api-gateway", "API Gateway", .aws, .network, .usd 3.5 500.0⟩,
  ⟨"aws-sqs", "SQS Queue", .aws, .integration, .usd 0.0 100.0⟩,
  ⟨"aws-route53", "Route 53 Zone", .aws, .network, .usd 0.5 50.0⟩]

def azureEntries : List CatalogEntry := [
  ⟨"azure-vm", "Virtual Machine", .azure, .compute, .usd 10.0 3000.0⟩,
  ⟨"azure-functions", "Function App", .azure, .compute, .usd 0.0 200.0⟩,
  ⟨"azure-app-service", "App Service", .azure, .compute, .usd 13.0 900.0⟩,
  ⟨"azure-aks", "AKS Cluster", .azure, .compute, .usd 70.0 5000.0⟩,
  ⟨"azure-sql", "Azure SQL Database", .azure, .database, .usd 5.0 4500.0⟩,
  ⟨"azure-cosmosdb", "Cosmos DB", .azure, .database, .usd 24.0 3000.0⟩,
  ⟨"azure-postgresql", "PostgreSQL Flexible Server", .azure, .database, .usd 12.0 3000.0⟩,
  ⟨"azure-redis", "Azure Cache for Redis", .azure, .database, .usd 16.0 2500.0⟩,
  ⟨"azure-storage", "Storage Account", .azure, .storage, .usd 1.0 500.0⟩,
  ⟨"azure-blob-storage", "Blob Container", .azure, .storage, .usd 1.0 400.0⟩,
  ⟨"azure-load-balancer", "Load Balancer", .azure, .network, .usd 18.0 120.0⟩,
  ⟨"azure-app-gateway", "Application Gateway", .azure, .network, .usd 140.0 900.0⟩,
  ⟨"azure-vnet", "Virtual Network", .azure, .container, .usd 0.0 0.0⟩,
  ⟨"azure-subnet", "Subnet", .azure, .container, .usd 0.0 0.0⟩,
  ⟨"azure-resource-group", "Resource Group", .azure, .container, .usd 0.0 0.0⟩,
  ⟨"azure-nsg", "Network Security Group", .azure, .security, .usd 0.0 0.0⟩,
  ⟨"azure-firewall", "Azure Firewall", .azure, .security, .usd 900.0 1800.0⟩,
  ⟨"azure-key-vault", "Key Vault", .azure, .security, .usd 1.0 50.0⟩,
  ⟨"azure-waf-policy", "WAF Policy", .azure, .security, .usd 20.0 400.0⟩,
  ⟨"azure-backup", "Recovery Services Vault", .azure, .storage, .usd 5.0 500.0⟩,
  ⟨"azure-monitor", "Azure Monitor", .azure, .monitoring, .usd 2.0 400.0⟩,
  ⟨"azure-cdn", "CDN Profile", .azure, .network, .usd 1.0 500.0⟩,
  ⟨"azure-front-door", "Front Door", .azure, .network, .usd 35.0 800.0⟩,
  ⟨"azure-service-bus", "Service Bus", .azure, .integration, .usd 0.0 700.0⟩,
  ⟨"azure-static-web-app", "Static Web App", .azure, .frontend, .usd 0.0 9.0⟩]

def gcpEntries : List CatalogEntry := [
  ⟨"gcp-compute-engine", "Compute Engine VM", .gcp, .compute, .usd 6.0 2800.0⟩,
  ⟨"gcp-cloud-run", "Cloud Run Service", .gcp, .compute, .usd 0.0 400.0⟩,
  ⟨"gcp-cloud-functions", "Cloud Function", .gcp, .compute, .usd 0.0 200.0⟩,
  ⟨"gcp-gke", "GKE Cluster", .gcp, .compute, .usd 73.0 5000.0⟩,
  ⟨"gcp-cloud-sql", "Cloud SQL", .gcp, .database, .usd 10.0 4000.0⟩,
  ⟨"gcp-firestore", "Firestore", .gcp, .database, .usd 0.0 800.0⟩,
  ⟨"gcp-memorystore", "Memorystore", .gcp, .database, .usd 35.0 2000.0⟩,
  ⟨"gcp-cloud-storage", "Cloud Storage Bucket", .gcp, .storage, .usd 1.0 500.0⟩,
  ⟨"gcp-load-balancer", "Cloud Load Balancing", .gcp, .network, .usd 18.0 200.0⟩,
  ⟨"gcp-vpc", "VPC Network", .gcp, .container, .usd 0.0 0.0⟩,
  ⟨"gcp-firewall", "Firewall Rule", .gcp, .security, .usd 0.0 0.0⟩,
  ⟨"gcp-cloud-armor", "Cloud Armor Policy", .gcp, .security, .usd 5.0 300.0⟩,
  ⟨"gcp-backup-dr", "Backup and DR", .gcp, .storage, .usd 5.0 500.0⟩,
  ⟨"gcp-cloud-monitoring", "Cloud Monitoring", .gcp, .monitoring, .usd 0.0 300.0⟩,
  ⟨"gcp-cloud-cdn", "Cloud CDN", .gcp, .network, .usd 1.0 500.0⟩,
  ⟨"gcp-pubsub", "Pub/Sub Topic", .gcp, .integration, .usd 0.0 300.0⟩]

def genericEntries : List CatalogEntry := [
  ⟨"web-frontend", "Web Frontend", .generic, .frontend, .usd 0.0 50.0⟩,
  ⟨"mobile-app", "Mobile App", .generic, .frontend, .usd 0.0 0.0⟩,
  ⟨"api-server", "API Server", .generic, .compute, .usd 20.0 800.0⟩,
  ⟨"virtual-machine", "Virtual Machine", .generic, .compute, .usd 10.0 2000.0⟩,
  ⟨"database", "Database", .generic, .database, .usd 15.0 3000.0⟩,
  ⟨"cache", "Cache", .generic, .database, .usd 10.0 1500.0⟩,
  ⟨"object-storage", "Object Storage", .generic, .storage, .usd 1.0 400.0⟩,
  ⟨"load-balancer", "Load Balancer", .generic, .network, .usd 15.0 150.0⟩,
  ⟨"firewall", "Firewall", .generic, .security, .usd 0.0 1000.0⟩,
  ⟨"waf", "Web Application Firewall", .generic, .security, .usd 5.0 400.0⟩,
  ⟨"backup", "Backup Service", .generic, .storage, .usd 5.0 400.0⟩,
  ⟨"monitoring", "Monitoring", .generic, .monitoring, .usd 0.0 300.0⟩,
  ⟨"cdn", "CDN", .generic, .network, .usd 1.0 500.0⟩,
  ⟨"message-queue", "Message Queue", .generic, .integration, .usd 0.0 300.0⟩]

/-- All entries, provider by provider. -/
def entries : List CatalogEntry :=
  awsEntries ++ azureEntries ++ gcpEntries ++ genericEntries

/-- The entry of a component type. -/
def find? (componentType : String) : Option CatalogEntry :=
  entries.find? (·.componentType == componentType)

def entriesOf (provider : Provider) : List CatalogEntry :=
  entries.filter (·.provider == provider)

end Catalog

end CloudGraph

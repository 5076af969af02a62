import CloudGraph.Generate.Target

/-!
# Mapping to Pulumi

The resource classes of Pulumi that component types become, and their default properties.
A type that is not listed has no resource.
-/

namespace CloudGraph.Mapping

def pulumiAws : MappingTable := [
  ("aws-ec2", {
    resourceType := "aws.ec2.Instance",
    defaults := [("ami", .text "ami-0c55b159cbfafe1f0"), ("instanceType", .text "t3.micro")] }),
  ("aws-lambda", {
    resourceType := "aws.lambda.Function",
    defaults := [("runtime", .text "nodejs18.x"), ("handler", .text "index.handler")] }),
  ("aws-ecs", { resourceType := "aws.ecs.Service", defaults := [("desiredCount", .integer 1)] }),
  ("aws-eks", { resourceType := "aws.eks.Cluster" }),
  ("aws-rds", {
    resourceType := "aws.rds.Instance",
    defaults := [
      ("engine", .text "postgres"),
      ("instanceClass", .text "db.t3.micro"),
      ("allocatedStorage", .integer 20)] }),
  ("aws-aurora", {
    resourceType := "aws.rds.Cluster",
    defaults := [("engine", .text "aurora-postgresql")] }),
  ("aws-dynamodb", {
    resourceType := "aws.dynamodb.Table",
    defaults := [("billingMode", .text "PAY_PER_REQUEST"), ("hashKey", .text "id")] }),
  ("aws-elasticache", {
    resourceType := "aws.elasticache.Cluster",
    defaults := [
      ("engine", .text "redis"),
      ("nodeType", .text "cache.t3.micro"),
      ("numCacheNodes", .integer 1)] }),
  ("aws-s3", { resourceType := "aws.s3.Bucket" }),
  ("aws-efs", { resourceType := "aws.efs.FileSystem" }),
  ("aws-alb", {
    resourceType := "aws.lb.LoadBalancer",
    defaults := [("loadBalancerType", .text "application"), ("internal", .flag false)] }),
  ("aws-elb", { resourceType := "aws.elb.LoadBalancer" }),
  ("aws-vpc", { resourceType := "aws.ec2.Vpc", defaults := [("cidrBlock", .text "10.0.0.0/16")] }),
  ("aws-subnet", {
    resourceType := "aws.ec2.Subnet",
    defaults := [("cidrBlock", .text "10.0.1.0/24")] }),
  ("aws-security-group", { resourceType := "aws.ec2.SecurityGroup" }),
  ("aws-waf", { resourceType := "aws.wafv2.WebAcl", defaults := [("scope", .text "REGIONAL")] }),
  ("aws-kms", { resourceType := "aws.kms.Key", defaults := [("enableKeyRotation", .flag true)] }),
  ("aws-backup", { resourceType := "aws.backup.Vault" }),
  ("aws-cloudwatch", {
    resourceType := "aws.cloudwatch.LogGroup",
    defaults := [("retentionInDays", .integer 30)] }),
  ("aws-cloudfront", {
    resourceType := "aws.cloudfront.Distribution",
    defaults := [("enabled", .flag true)] }),
  ("aws-sqs", { resourceType := "aws.sqs.Queue" })]

def pulumiAzure : MappingTable := [
  ("azure-resource-group", { resourceType := "azure_native.resources.ResourceGroup" }),
  ("azure-vm", { resourceType := "azure_native.compute.VirtualMachine" }),
  ("azure-app-service", { resourceType := "azure_native.web.WebApp" }),
  ("azure-functions", {
    resourceType := "azure_native.web.WebApp",
    defaults := [("kind", .text "functionapp")] }),
  ("azure-aks", { resourceType := "azure_native.containerservice.ManagedCluster" }),
  ("azure-sql", { resourceType := "azure_native.sql.Database" }),
  ("azure-cosmosdb", {
    resourceType := "azure_native.documentdb.DatabaseAccount",
    defaults := [("databaseAccountOfferType", .text "Standard")] }),
  ("azure-redis", { resourceType := "azure_native.cache.Redis" }),
  ("azure-storage", {
    resourceType := "azure_native.storage.StorageAccount",
    defaults := [("kind", .text "StorageV2")] }),
  ("azure-vnet", { resourceType := "azure_native.network.VirtualNetwork" }),
  ("azure-nsg", { resourceType := "azure_native.network.NetworkSecurityGroup" }),
  ("azure-load-balancer", { resourceType := "azure_native.network.LoadBalancer" }),
  ("azure-app-gateway", { resourceType := "azure_native.network.ApplicationGateway" }),
  ("azure-key-vault", { resourceType := "azure_native.keyvault.Vault" })]

def pulumiGcp : MappingTable := [
  ("gcp-compute-engine", {
    resourceType := "gcp.compute.Instance",
    defaults := [("machineType", .text "e2-medium")] }),
  ("gcp-cloud-run", { resourceType := "gcp.cloudrunv2.Service" }),
  ("gcp-gke", {
    resourceType := "gcp.container.Cluster",
    defaults := [("initialNodeCount", .integer 1)] }),
  ("gcp-cloud-sql", {
    resourceType := "gcp.sql.DatabaseInstance",
    defaults := [("databaseVersion", .text "POSTGRES_15")] }),
  ("gcp-cloud-storage", {
    resourceType := "gcp.storage.Bucket",
    defaults := [("location", .text "EU")] }),
  ("gcp-vpc", {
    resourceType := "gcp.compute.Network",
    defaults := [("autoCreateSubnetworks", .flag false)] }),
  ("gcp-firewall", { resourceType := "gcp.compute.Firewall" }),
  ("gcp-memorystore", {
    resourceType := "gcp.redis.Instance",
    defaults := [("memorySizeGb", .integer 1)] }),
  ("gcp-pubsub", { resourceType := "gcp.pubsub.Topic" })]

def pulumi : MappingTable :=
  pulumiAws ++ pulumiAzure ++ pulumiGcp

end CloudGraph.Mapping

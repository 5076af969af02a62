import CloudGraph.Generate.Target

/-!
# Mapping to Terraform

The provider resources of Terraform that component types become, and their default properties.
A type that is not listed has no resource.
-/

namespace CloudGraph.Mapping

def terraformAws : MappingTable := [
  ("aws-ec2", {
    resourceType := "aws_instance",
    defaults := [("ami", .text "ami-0c55b159cbfafe1f0"), ("instance_type", .text "t3.micro")] }),
  ("aws-lambda", {
    resourceType := "aws_lambda_function",
    defaults := [("runtime", .text "nodejs18.x"), ("handler", .text "index.handler")] }),
  ("aws-ecs", { resourceType := "aws_ecs_service", defaults := [("desired_count", .integer 1)] }),
  ("aws-eks", { resourceType := "aws_eks_cluster" }),
  ("aws-rds", {
    resourceType := "aws_db_instance",
    defaults := [
      ("engine", .text "postgres"),
      ("instance_class", .text "db.t3.micro"),
      ("allocated_storage", .integer 20)] }),
  ("aws-aurora", {
    resourceType := "aws_rds_cluster",
    defaults := [("engine", .text "aurora-postgresql")] }),
  ("aws-dynamodb", {
    resourceType := "aws_dynamodb_table",
    defaults := [("billing_mode", .text "PAY_PER_REQUEST"), ("hash_key", .text "id")] }),
  ("aws-elasticache", {
    resourceType := "aws_elasticache_cluster",
    defaults := [
      ("engine", .text "redis"),
      ("node_type", .text "cache.t3.micro"),
      ("num_cache_nodes", .integer 1)] }),
  ("aws-s3", { resourceType := "aws_s3_bucket" }),
  ("aws-efs", { resourceType := "aws_efs_file_system" }),
  ("aws-elb", { resourceType := "aws_elb" }),
  ("aws-alb", {
    resourceType := "aws_lb",
    defaults := [("load_balancer_type", .text "application"), ("internal", .flag false)] }),
  ("aws-vpc", { resourceType := "aws_vpc", defaults := [("cidr_block", .text "10.0.0.0/16")] }),
  ("aws-subnet", {
    resourceType := "aws_subnet",
    defaults := [("cidr_block", .text "10.0.1.0/24")] }),
  ("aws-security-group", { resourceType := "aws_security_group" }),
  ("aws-waf", { resourceType := "aws_wafv2_web_acl", defaults := [("scope", .text "REGIONAL")] }),
  ("aws-kms", { resourceType := "aws_kms_key", defaults := [("enable_key_rotation", .flag true)] }),
  ("aws-backup", { resourceType := "aws_backup_vault" }),
  ("aws-cloudwatch", {
    resourceType := "aws_cloudwatch_log_group",
    defaults := [("retention_in_days", .integer 30)] }),
  ("aws-cloudfront", {
    resourceType := "aws_cloudfront_distribution",
    defaults := [("enabled", .flag true)] }),
  ("aws-api-gateway", { resourceType := "aws_api_gateway_rest_api" }),
  ("aws-sqs", { resourceType := "aws_sqs_queue" }),
  ("aws-route53", { resourceType := "aws_route53_zone" })]

def terraformAzure : MappingTable := [
  ("azure-vm", {
    resourceType := "azurerm_linux_virtual_machine",
    defaults := [("size", .text "Standard_B2s")] }),
  ("azure-functions", { resourceType := "azurerm_linux_function_app" }),
  ("azure-app-service", { resourceType := "azurerm_linux_web_app" }),
  ("azure-aks", { resourceType := "azurerm_kubernetes_cluster" }),
  ("azure-sql", {
    resourceType := "azurerm_mssql_database",
    defaults := [("sku_name", .text "S0")] }),
  ("azure-cosmosdb", {
    resourceType := "azurerm_cosmosdb_account",
    defaults := [("offer_type", .text "Standard")] }),
  ("azure-postgresql", {
    resourceType := "azurerm_postgresql_flexible_server",
    defaults := [("version", .text "15")] }),
  ("azure-redis", {
    resourceType := "azurerm_redis_cache",
    defaults := [("capacity", .integer 1), ("family", .text "C"), ("sku_name", .text "Basic")] }),
  ("azure-storage", {
    resourceType := "azurerm_storage_account",
    defaults := [("account_tier", .text "Standard"), ("account_replication_type", .text "LRS")] }),
  ("azure-blob-storage", { resourceType := "azurerm_storage_container" }),
  ("azure-load-balancer", { resourceType := "azurerm_lb" }),
  ("azure-app-gateway", { resourceType := "azurerm_application_gateway" }),
  ("azure-vnet", { resourceType := "azurerm_virtual_network" }),
  ("azure-subnet", { resourceType := "azurerm_subnet" }),
  ("azure-resource-group", {
    resourceType := "azurerm_resource_group",
    defaults := [("location", .text "westeurope")] }),
  ("azure-nsg", { resourceType := "azurerm_network_security_group" }),
  ("azure-firewall", { resourceType := "azurerm_firewall" }),
  ("azure-key-vault", {
    resourceType := "azurerm_key_vault",
    defaults := [("sku_name", .text "standard")] }),
  ("azure-backup", {
    resourceType := "azurerm_recovery_services_vault",
    defaults := [("sku", .text "Standard")] }),
  ("azure-monitor", { resourceType := "azurerm_log_analytics_workspace" }),
  ("azure-cdn", { resourceType := "azurerm_cdn_profile" }),
  ("azure-front-door", { resourceType := "azurerm_cdn_frontdoor_profile" }),
  ("azure-service-bus", {
    resourceType := "azurerm_servicebus_namespace",
    defaults := [("sku", .text "Standard")] }),
  ("azure-static-web-app", { resourceType := "azurerm_static_web_app" })]

def terraformGcp : MappingTable := [
  ("gcp-compute-engine", {
    resourceType := "google_compute_instance",
    defaults := [("machine_type", .text "e2-medium")] }),
  ("gcp-cloud-run", { resourceType := "google_cloud_run_v2_service" }),
  ("gcp-cloud-functions", { resourceType := "google_cloudfunctions2_function" }),
  ("gcp-gke", {
    resourceType := "google_container_cluster",
    defaults := [("initial_node_count", .integer 1)] }),
  ("gcp-cloud-sql", {
    resourceType := "google_sql_database_instance",
    defaults := [("database_version", .text "POSTGRES_15")] }),
  ("gcp-firestore", {
    resourceType := "google_firestore_database",
    defaults := [("type", .text "FIRESTORE_NATIVE")] }),
  ("gcp-memorystore", {
    resourceType := "google_redis_instance",
    defaults := [("memory_size_gb", .integer 1)] }),
  ("gcp-cloud-storage", {
    resourceType := "google_storage_bucket",
    defaults := [("location", .text "EU")] }),
  ("gcp-load-balancer", { resourceType := "google_compute_url_map" }),
  ("gcp-vpc", {
    resourceType := "google_compute_network",
    defaults := [("auto_create_subnetworks", .flag false)] }),
  ("gcp-firewall", { resourceType := "google_compute_firewall" }),
  ("gcp-cloud-armor", { resourceType := "google_compute_security_policy" }),
  ("gcp-cloud-monitoring", { resourceType := "google_monitoring_alert_policy" }),
  ("gcp-pubsub", { resourceType := "google_pubsub_topic" })]

def terraform : MappingTable :=
  terraformAws ++ terraformAzure ++ terraformGcp

end CloudGraph.Mapping

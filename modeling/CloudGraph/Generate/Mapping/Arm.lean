import CloudGraph.Generate.Target

/-!
# Mapping to Azure Resource Manager

The resource types of Azure Resource Manager that component types become, each under a version
of its interface, and their default properties. A type that is not listed has no resource.
-/

namespace CloudGraph.Mapping

/-- A resource type under a version of its interface. -/
def armType (resourceType apiVersion : String)
    (defaults : List (String × DefaultValue) := []) : ResourceMapping :=
  { resourceType, apiVersion := some apiVersion, defaults }

def arm : MappingTable := [
  ("azure-vm", armType "Microsoft.Compute/virtualMachines" "2023-03-01"),
  ("azure-aks", armType "Microsoft.ContainerService/managedClusters" "2023-08-01"),
  ("azure-app-service", armType "Microsoft.Web/sites" "2022-09-01"
    [("httpsOnly", .flag true)]),
  ("azure-functions", armType "Microsoft.Web/sites" "2022-09-01"
    [("kind", .text "functionapp")]),
  ("azure-static-web-app", armType "Microsoft.Web/staticSites" "2022-09-01"),
  ("azure-sql", armType "Microsoft.Sql/servers" "2022-05-01-preview"),
  ("azure-cosmosdb", armType "Microsoft.DocumentDB/databaseAccounts" "2023-04-15"
    [("databaseAccountOfferType", .text "Standard")]),
  ("azure-postgresql", armType "Microsoft.DBforPostgreSQL/flexibleServers" "2022-12-01"
    [("version", .text "15")]),
  ("azure-redis", armType "Microsoft.Cache/redis" "2023-04-01"),
  ("azure-storage", armType "Microsoft.Storage/storageAccounts" "2023-01-01"
    [("kind", .text "StorageV2")]),
  ("azure-blob-storage", armType
    "Microsoft.Storage/storageAccounts/blobServices/containers" "2023-01-01"),
  ("azure-load-balancer", armType "Microsoft.Network/loadBalancers" "2023-04-01"),
  ("azure-app-gateway", armType "Microsoft.Network/applicationGateways" "2023-04-01"),
  ("azure-vnet", armType "Microsoft.Network/virtualNetworks" "2023-04-01"),
  ("azure-subnet", armType "Microsoft.Network/virtualNetworks/subnets" "2023-04-01"),
  ("azure-nsg", armType "Microsoft.Network/networkSecurityGroups" "2023-04-01"),
  ("azure-firewall", armType "Microsoft.Network/azureFirewalls" "2023-04-01"),
  ("azure-waf-policy", armType
    "Microsoft.Network/ApplicationGatewayWebApplicationFirewallPolicies" "2023-04-01"),
  ("azure-front-door", armType "Microsoft.Cdn/profiles" "2023-05-01"),
  ("azure-cdn", armType "Microsoft.Cdn/profiles" "2023-05-01"),
  ("azure-key-vault", armType "Microsoft.KeyVault/vaults" "2023-02-01"),
  ("azure-backup", armType "Microsoft.RecoveryServices/vaults" "2023-04-01"),
  ("azure-monitor", armType "Microsoft.OperationalInsights/workspaces" "2022-10-01"),
  ("azure-service-bus", armType "Microsoft.ServiceBus/namespaces" "2022-10-01-preview")]

end CloudGraph.Mapping

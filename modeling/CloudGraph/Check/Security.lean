import CloudGraph.Check.Basic

/-!
# Security checks

Storage is encrypted, databases are private, a firewall stands before compute nodes, and load
balancers terminate TLS.
-/

namespace CloudGraph.Security

def storageCheck (n : Node) : Check :=
  let encrypted := n.view.flag? .encryption == some true
  { id := "sec-storage-encryption:" ++ n.id
    name := "Storage encryption"
    suite := .security
    status := if encrypted then .pass else .fail
    message := n.displayName ++
      if encrypted then " encrypts data at rest" else " does not enable encryption"
    details :=
      if encrypted then none else some "Set `encryption: true` on the storage resource."
    affected := [n.id] }

def databaseCheck (n : Node) : Check :=
  let isPublic := n.view.flag? .publicAccess == some true
  { id := "sec-database-public-access:" ++ n.id
    name := "Database public access"
    suite := .security
    status := if isPublic then .fail else .pass
    message := n.displayName ++
      if isPublic then " is reachable from the public internet" else " is not publicly accessible"
    affected := [n.id] }

/-- One verdict on the firewalls of a graph with compute nodes. -/
def firewallChecks (g : Graph) : List Check :=
  if g.hasRole .compute then
    let firewalls := g.withRole .firewall
    [{ id := "sec-network-security-group"
       name := "Network security group"
       suite := .security
       status := if firewalls.isEmpty then .fail else .pass
       message :=
         if firewalls.isEmpty then "Compute resources exist without a security group or firewall"
         else toString firewalls.length ++ " security group(s) protect compute"
       affected :=
         (if firewalls.isEmpty then g.withRole .compute else firewalls).map (·.id) }]
  else []

def loadBalancerCheck (n : Node) : Check :=
  let tls := n.view.flag? .tls == some true
  { id := "sec-lb-tls:" ++ n.id
    name := "Load balancer TLS"
    suite := .security
    status := if tls then .pass else .fail
    message := n.displayName ++ if tls then " terminates TLS" else " serves plain HTTP"
    affected := [n.id] }

def checks (g : Graph) : List Check :=
  (g.withRole .storage).map storageCheck ++ (g.withRole .database).map databaseCheck
    ++ firewallChecks g ++ (g.withRole .loadBalancer).map loadBalancerCheck

end CloudGraph.Security

import CloudGraph.Check.Basic

/-!
# Configuration checks

Compute nodes run in several copies, databases have a standby, and a graph with databases has a
backup.
-/

namespace CloudGraph.Redundancy

/-- The least number of copies that survives the loss of one. -/
def minReplicas : Int := 2

def replicasCheck (n : Node) : Check :=
  let replicas := n.view.replicas
  let enough : Bool := minReplicas ≤ replicas
  { id := "cfg-replicas:" ++ n.id
    name := "Compute replicas"
    suite := .configuration
    status := if enough then .pass else .warning
    message := n.displayName ++
      if enough then " runs " ++ toString replicas ++ " replicas" else " runs a single replica"
    affected := [n.id] }

def standbyCheck (n : Node) : Check :=
  let replicated := n.view.flag? .highAvailability == some true
  { id := "cfg-database-ha:" ++ n.id
    name := "Database high availability"
    suite := .configuration
    status := if replicated then .pass else .warning
    message := n.displayName ++
      if replicated then " has replication enabled" else " has no replication or standby"
    affected := [n.id] }

/-- One verdict on the backups of a graph with databases. -/
def backupChecks (g : Graph) : List Check :=
  if g.hasRole .database then
    let backups := g.withRole .backup
    [{ id := "cfg-backup"
       name := "Backup configured"
       suite := .configuration
       status := if backups.isEmpty then .fail else .pass
       message :=
         if backups.isEmpty then "Databases exist but no backup service is defined"
         else toString backups.length ++ " backup service(s) defined"
       affected := (if backups.isEmpty then g.withRole .database else backups).map (·.id) }]
  else []

def checks (g : Graph) : List Check :=
  (g.withRole .compute).map replicasCheck ++ (g.withRole .database).map standbyCheck
    ++ backupChecks g

end CloudGraph.Redundancy

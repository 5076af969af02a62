import CloudGraph.Rule.Basic

/-!
# The rules of the compliance frameworks

The automated checks of each framework, in the order of its report. Each yields at most one
finding, which lists every offender.
-/

namespace CloudGraph

namespace Rule

def workloads : List Role := [.compute, .backend, .database, .storage]

def dataStores : List Role := [.database, .storage]

/-- Roles that serve the whole graph and need no edge of their own. -/
def ambient : List Role := [.container, .backup, .monitoring]

/-- A compliance check: one finding for all offenders. -/
def check (id title : String) (severity : Severity) (pattern : Pattern)
    (description remediation : String) (references : List String) (autoFixable : Bool) : Rule :=
  { id, title, description, severity, category := .compliance, remediation, references,
    autoFixable, scope := .aggregate, pattern }

def cisRules : List Rule := [
  check "cis-1.1" "No network security group protecting compute" .high
    (.roleAbsence [.compute] .firewall)
    "Compute resources are deployed without a network security group or firewall."
    "Add a network security group or firewall and restrict inbound traffic to required ports."
    ["CIS Controls v8 12.2"] false,
  check "cis-2.1" "Storage encryption disabled" .high
    (.configFlag [.storage] .encryption .isNotTrue)
    "Storage resources do not enable encryption at rest."
    "Enable server-side encryption with a managed or customer-managed key."
    ["CIS Controls v8 3.11"] true,
  check "cis-2.2" "Database encryption disabled" .high
    (.configFlag [.database] .encryption .isNotTrue)
    "Databases do not enable encryption at rest."
    "Enable transparent data encryption or storage-level encryption for every database."
    ["CIS Controls v8 3.11"] true,
  check "cis-2.3" "Publicly accessible storage" .critical
    (.configFlag [.storage] .publicAccess .isTrue)
    "Storage resources allow public access."
    "Block public access and grant access through scoped identities or signed URLs."
    ["CIS Controls v8 3.3"] true,
  check "cis-3.1" "No TLS on load balancer" .high
    (.configFlag [.loadBalancer] .tls .isNotTrue)
    "Load balancers accept traffic without TLS termination."
    "Configure an HTTPS listener with a valid certificate and redirect plain HTTP."
    ["CIS Controls v8 3.10"] true,
  check "cis-4.1" "No backup configured" .critical
    (.roleAbsence [.database] .backup)
    "Databases exist but no backup service is part of the architecture."
    "Add a backup vault or service and attach a retention policy to each database."
    ["CIS Controls v8 11.2"] false,
  check "cis-5.1" "No monitoring configured" .medium
    (.roleAbsence workloads .monitoring)
    "Workloads are deployed without a monitoring or logging service."
    "Add a monitoring service and forward resource logs and metrics to it."
    ["CIS Controls v8 8.2"] false,
  check "cis-6.1" "Database publicly accessible" .critical
    (.configFlag [.database] .publicAccess .isTrue)
    "Databases are reachable from the public internet."
    "Disable public network access and connect through private endpoints."
    ["CIS Controls v8 12.2"] true]

def gdprRules : List Rule := [
  check "gdpr-art44" "Personal data stored outside the EU" .high
    (.geography dataStores euRegions)
    "Data stores are placed in regions outside the European Union."
    "Move data stores to an EU region or document an approved transfer mechanism."
    ["GDPR Art. 44"] false,
  check "gdpr-art32-encryption" "Personal data not encrypted at rest" .high
    (.configFlag dataStores .encryption .isNotTrue)
    "Data stores holding personal data do not enable encryption at rest."
    "Enable encryption at rest on every database and storage resource."
    ["GDPR Art. 32(1)(a)"] true,
  check "gdpr-art32-availability" "No backup for personal data" .medium
    (.roleAbsence [.database] .backup)
    "Personal data cannot be restored in a timely manner without backups."
    "Add a backup service covering every database."
    ["GDPR Art. 32(1)(c)"] false,
  check "gdpr-art30" "Database audit logging disabled" .medium
    (.configFlag [.database] .auditLogging .isNotTrue)
    "Processing of personal data is not recorded by database audit logs."
    "Enable audit logging on databases and retain the logs."
    ["GDPR Art. 30"] true,
  check "gdpr-art25" "Personal data publicly accessible" .critical
    (.configFlag dataStores .publicAccess .isTrue)
    "Data stores are reachable without network restriction."
    "Disable public access so personal data is private by default."
    ["GDPR Art. 25"] true]

def soc2Rules : List Rule := [
  check "soc2-cc6.1" "Logical access controls missing" .high
    (.roleAbsence [.compute] .firewall)
    "Compute resources are not protected by a firewall or security group."
    "Place compute behind a network security group with least-privilege rules."
    ["SOC 2 CC6.1"] false,
  check "soc2-cc6.7" "Data in transit not encrypted" .high
    (.configFlag [.loadBalancer] .tls .isNotTrue)
    "Load balancers terminate traffic without TLS."
    "Enable TLS on every load balancer listener."
    ["SOC 2 CC6.7"] true,
  check "soc2-cc7.2" "System monitoring missing" .high
    (.roleAbsence workloads .monitoring)
    "No monitoring service observes the deployed workloads."
    "Add a monitoring service with alerting on security-relevant events."
    ["SOC 2 CC7.2"] false,
  check "soc2-a1.2" "Backup and recovery missing" .high
    (.roleAbsence [.database] .backup)
    "Databases have no backup service for recovery."
    "Add a backup service and test restores periodically."
    ["SOC 2 A1.2"] false,
  check "soc2-a1.1" "Single point of failure in compute tier" .medium
    (.singlePointOfFailure .compute)
    "Every compute resource runs a single instance."
    "Run at least two replicas behind a load balancer."
    ["SOC 2 A1.1"] false,
  check "soc2-cc8.1" "Unmanaged resources" .low
    (.isolation ambient)
    "Resources are not connected to the rest of the architecture and may be unmanaged."
    "Connect or remove orphaned resources and record them in the change log."
    ["SOC 2 CC8.1"] false]

def pciDssRules : List Rule := [
  check "pci-1.2" "Cardholder environment lacks a firewall" .critical
    (.roleAbsence [.compute, .backend] .firewall)
    "Workloads run without network security controls."
    "Install network security controls between trusted and untrusted networks."
    ["PCI DSS v4.0 1.2"] false,
  check "pci-1.3" "Database reachable from the internet" .critical
    (.configFlag [.database] .publicAccess .isTrue)
    "Databases that may hold cardholder data are publicly accessible."
    "Restrict database access to the cardholder data environment."
    ["PCI DSS v4.0 1.3"] true,
  check "pci-3.5" "Stored account data not encrypted" .critical
    (.configFlag dataStores .encryption .isNotTrue)
    "Data stores do not render stored data unreadable."
    "Enable strong encryption at rest on all data stores."
    ["PCI DSS v4.0 3.5"] true,
  check "pci-4.2" "Transmission not protected with strong cryptography" .critical
    (.configFlag [.loadBalancer] .tls .isNotTrue)
    "Load balancers transmit data without TLS."
    "Require TLS 1.2 or later on every public listener."
    ["PCI DSS v4.0 4.2"] true,
  check "pci-6.4" "Public web application without WAF" .high
    (.roleAbsence [.loadBalancer, .frontend] .waf)
    "Public-facing applications are not protected by a web application firewall."
    "Deploy a web application firewall in front of public endpoints."
    ["PCI DSS v4.0 6.4.2"] false,
  check "pci-10.2" "Database audit logs disabled" .high
    (.configFlag [.database] .auditLogging .isNotTrue)
    "Access to databases is not captured in audit logs."
    "Enable audit logging on all databases."
    ["PCI DSS v4.0 10.2"] true,
  check "pci-10.4" "No log review capability" .high
    (.roleAbsence workloads .monitoring)
    "No monitoring service collects logs for review."
    "Add a monitoring service that aggregates and alerts on logs."
    ["PCI DSS v4.0 10.4"] false]

def hipaaRules : List Rule := [
  check "hipaa-164.312a" "Access control safeguards missing" .high
    (.roleAbsence [.compute] .firewall)
    "Systems handling ePHI are not protected by network access controls."
    "Add a firewall or network security group around compute resources."
    ["45 CFR 164.312(a)(1)"] false,
  check "hipaa-164.312a2iv" "ePHI not encrypted at rest" .high
    (.configFlag dataStores .encryption .isNotTrue)
    "Data stores that may hold ePHI do not enable encryption."
    "Enable encryption at rest on every database and storage resource."
    ["45 CFR 164.312(a)(2)(iv)"] true,
  check "hipaa-164.312b" "Audit controls missing" .high
    (.roleAbsence workloads .monitoring)
    "No mechanism records activity in systems that contain ePHI."
    "Add a monitoring service and enable activity logs."
    ["45 CFR 164.312(b)"] false,
  check "hipaa-164.312e" "Transmission security missing" .high
    (.configFlag [.loadBalancer] .tls .isNotTrue)
    "ePHI can be transmitted over unencrypted connections."
    "Enable TLS on load balancers."
    ["45 CFR 164.312(e)(1)"] true,
  check "hipaa-164.308a7" "No contingency backup plan" .critical
    (.roleAbsence [.database] .backup)
    "No data backup plan exists for databases."
    "Add a backup service with retrievable exact copies of ePHI."
    ["45 CFR 164.308(a)(7)(ii)(A)"] false,
  check "hipaa-164.308a7-ha" "Database without high availability" .medium
    (.configFlag [.database] .highAvailability .isNotTrue)
    "Databases run without replication, risking unavailability of ePHI."
    "Enable high availability or replication for databases."
    ["45 CFR 164.308(a)(7)(ii)(C)"] true]

end Rule

end CloudGraph

import CloudGraph.Decimal.Places
import CloudGraph.Rule.Frameworks
import CloudGraph.Rule.Heuristics
import CloudGraph.Timestamp

/-!
# Compliance reports

A framework is scored against a fixed number of checks, of which some have a rule; a check
without a rule counts as passed. The score is the share of passed checks in percent, rounded to
the nearest integer.
-/

namespace CloudGraph

inductive Framework where
  | cis | gdpr | soc2 | pciDss | hipaa
deriving DecidableEq, Repr

/-- A name that no framework has. -/
structure UnknownFramework where
  name : String
deriving DecidableEq, Repr

def UnknownFramework.message (e : UnknownFramework) : String :=
  "Unknown compliance framework: " ++ e.name

namespace Framework

def all : List Framework := [.cis, .gdpr, .soc2, .pciDss, .hipaa]

def totalChecks : Framework → Nat
  | .cis => 25
  | .gdpr => 15
  | .soc2 => 20
  | .pciDss => 30
  | .hipaa => 18

def id : Framework → String
  | .cis => "cis"
  | .gdpr => "gdpr"
  | .soc2 => "soc2"
  | .pciDss => "pci-dss"
  | .hipaa => "hipaa"

def displayName : Framework → String
  | .cis => "CIS Benchmarks"
  | .gdpr => "GDPR"
  | .soc2 => "SOC 2"
  | .pciDss => "PCI-DSS"
  | .hipaa => "HIPAA"

def rules : Framework → List Rule
  | .cis => Rule.cisRules
  | .gdpr => Rule.gdprRules
  | .soc2 => Rule.soc2Rules
  | .pciDss => Rule.pciDssRules
  | .hipaa => Rule.hipaaRules

def ruleIds (f : Framework) : List String :=
  f.rules.map (·.id)

/-- The framework that a user named, in any case of letters. -/
def parse (text : String) : Except UnknownFramework Framework :=
  match Text.lowercase (Text.trim text) with
  | "cis" => .ok .cis
  | "gdpr" => .ok .gdpr
  | "soc2" | "soc-2" => .ok .soc2
  | "pci-dss" | "pci" | "pcidss" => .ok .pciDss
  | "hipaa" => .ok .hipaa
  | other => .error ⟨other⟩

end Framework

structure ComplianceReport where
  framework : Framework
  score : Nat
  findings : List Finding
  passedChecks : Nat
  totalChecks : Nat
  timestamp : Timestamp
deriving DecidableEq, Repr

namespace ComplianceReport

/-- The share of passed checks in percent, computed with doubles and then rounded. -/
def percent (passed total : Nat) : Nat :=
  Decimal.toByte (Decimal.ofDecimal false passed 0 / Decimal.ofDecimal false total 0 * 100.0)

def ofFindings (framework : Framework) (findings : List Finding) (timestamp : Timestamp) :
    ComplianceReport :=
  let total := framework.totalChecks
  let passed := total - findings.length
  { framework, score := percent passed total, findings, passedChecks := passed,
    totalChecks := total, timestamp }

def failedChecks (r : ComplianceReport) : Nat :=
  r.totalChecks - r.passedChecks

/-- The report's fields; a caller may leave the time out or write it its own way. -/
def toJson (r : ComplianceReport) (timestamp : Option String) : Json :=
  .obj <| [
    ("framework", .str r.framework.id),
    ("score", .ofNat r.score),
    ("findings", .arr (r.findings.map Finding.toJson)),
    ("passedChecks", .ofNat r.passedChecks),
    ("totalChecks", .ofNat r.totalChecks)]
    ++ (match timestamp with
      | some t => [("timestamp", .str t)]
      | none => [])

end ComplianceReport

/-- The report of a framework at a time. -/
def evaluateFramework (g : Graph) (framework : Framework) (timestamp : Timestamp) :
    ComplianceReport :=
  .ofFindings framework (runRules framework.rules g) timestamp

def evaluateAllFrameworks (g : Graph) (timestamp : Timestamp) : List ComplianceReport :=
  Framework.all.map (evaluateFramework g · timestamp)

/-- The findings of the rules that belong to no framework. -/
def evaluateHeuristics (g : Graph) : List Finding :=
  runRules Rule.heuristics g

def heuristicRuleIds : List String :=
  Rule.heuristics.map (·.id)

end CloudGraph

import CloudGraph.Json.Basic
import CloudGraph.Text.Blank
import CloudGraph.Text.Casing

/-!
# Findings

What an evaluation reports about a graph: a finding has a severity and a category and names the
nodes it is about. `Severity.normalize` maps any wording onto the four severities.
-/

namespace CloudGraph

inductive Severity where
  | low | medium | high | critical
deriving DecidableEq, Repr

namespace Severity

def all : List Severity := [.low, .medium, .high, .critical]

def name : Severity → String
  | .low => "low"
  | .medium => "medium"
  | .high => "high"
  | .critical => "critical"

def ofName? (name : String) : Option Severity :=
  all.find? (·.name == name)

def rank : Severity → Nat
  | .low => 0
  | .medium => 1
  | .high => 2
  | .critical => 3

/-- The penalty of one finding. -/
def weight : Severity → UInt32
  | .low => 1
  | .medium => 5
  | .high => 10
  | .critical => 25

/-- The severity of a word in any case of letters; a word that is not known is low. -/
def normalize (text : String) : Severity :=
  match Text.lowercase (Text.trim text) with
  | "critical" | "blocker" => .critical
  | "high" | "error" | "major" => .high
  | "medium" | "moderate" | "warning" | "warn" => .medium
  | _ => .low

end Severity

inductive RuleCategory where
  | compliance | security | cost | reliability | performance | advisory
deriving DecidableEq, Repr

namespace RuleCategory

def all : List RuleCategory :=
  [.compliance, .security, .cost, .reliability, .performance, .advisory]

def name : RuleCategory → String
  | .compliance => "compliance"
  | .security => "security"
  | .cost => "cost"
  | .reliability => "reliability"
  | .performance => "performance"
  | .advisory => "advisory"

def ofName? (name : String) : Option RuleCategory :=
  all.find? (·.name == name)

/-- The position in the order of the categories. -/
def rank : RuleCategory → Nat
  | .compliance => 0
  | .security => 1
  | .cost => 2
  | .reliability => 3
  | .performance => 4
  | .advisory => 5

end RuleCategory

structure Finding where
  id : String
  ruleId : String
  severity : Severity
  category : RuleCategory
  title : String
  description : String
  affected : List String
  remediation : String
  references : List String := []
  autoFixable : Option Bool := none
deriving DecidableEq, Repr

/-- References are left out when there are none, and so is an unknown fixability. -/
def Finding.toJson (f : Finding) : Json :=
  .obj <| [
    ("id", .str f.id),
    ("ruleId", .str f.ruleId),
    ("severity", .str f.severity.name),
    ("category", .str f.category.name),
    ("title", .str f.title),
    ("description", .str f.description),
    ("affectedResources", .strings f.affected),
    ("remediation", .str f.remediation)]
    ++ (if f.references.isEmpty then [] else [("references", .strings f.references)])
    ++ (match f.autoFixable with
      | some b => [("autoFixable", .bool b)]
      | none => [])

/-! ## Summaries -/

/-- Count a key once more. The counts list what occurs, in the order of the ranks. -/
def countUp {α : Type} (rank : α → Nat) (key : α) : List (α × Nat) → List (α × Nat)
  | [] => [(key, 1)]
  | (k, n) :: rest =>
    if rank key < rank k then (key, 1) :: (k, n) :: rest
    else if rank key = rank k then (k, n + 1) :: rest
    else (k, n) :: countUp rank key rest

/-- How often a key occurs. -/
def countOf {α : Type} [BEq α] (key : α) (counts : List (α × Nat)) : Nat :=
  match counts.find? (·.1 == key) with
  | some e => e.2
  | none => 0

/-- What is kept of the findings seen so far. The penalty is a word, so it is the sum of their
weights only while that is below `2 ^ 32`. -/
structure Tally where
  bySeverity : List (Severity × Nat) := []
  byCategory : List (RuleCategory × Nat) := []
  penalty : UInt32 := 0
deriving DecidableEq, Repr

/-- Count one more finding. -/
def Tally.add (t : Tally) (f : Finding) : Tally where
  bySeverity := countUp Severity.rank f.severity t.bySeverity
  byCategory := countUp RuleCategory.rank f.category t.byCategory
  penalty := t.penalty + f.severity.weight

/-- How many findings there are, and how they spread. -/
structure Summary where
  total : Nat
  bySeverity : List (Severity × Nat)
  byCategory : List (RuleCategory × Nat)
  healthScore : UInt8
deriving DecidableEq, Repr

namespace Summary

/-- The health score is 100 less the penalty, but not below 0. -/
def health (penalty : UInt32) : UInt8 :=
  (if penalty ≤ 100 then 100 - penalty else 0).toUInt8

def ofFindings (findings : List Finding) : Summary :=
  let tally := findings.foldl Tally.add {}
  { total := findings.length
    bySeverity := tally.bySeverity
    byCategory := tally.byCategory
    healthScore := health tally.penalty }

def count (s : Summary) (severity : Severity) : Nat :=
  countOf severity s.bySeverity

def toJson (s : Summary) : Json :=
  .obj [
    ("total", .ofNat s.total),
    ("bySeverity", .obj (s.bySeverity.map fun e => (e.1.name, .ofNat e.2))),
    ("byCategory", .obj (s.byCategory.map fun e => (e.1.name, .ofNat e.2))),
    ("healthScore", .ofNat s.healthScore.toNat)]

end Summary

end CloudGraph

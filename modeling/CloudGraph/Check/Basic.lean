import CloudGraph.Graph.Basic

/-!
# Checks

A check is one verdict about a graph. A run of checks passes the gate if none of them fails.
-/

namespace CloudGraph

/-- The suite that a check belongs to, in the order the suites run. -/
inductive Suite where
  | connectivity | security | cost | configuration
deriving DecidableEq, Repr

namespace Suite

def all : List Suite := [.connectivity, .security, .cost, .configuration]

def name : Suite → String
  | .connectivity => "connectivity"
  | .security => "security"
  | .cost => "cost"
  | .configuration => "configuration"

def ofName? (name : String) : Option Suite :=
  all.find? (·.name == name)

end Suite

inductive Status where
  | pass | fail | warning | skipped
deriving DecidableEq, Repr

namespace Status

def all : List Status := [.pass, .fail, .warning, .skipped]

def name : Status → String
  | .pass => "pass"
  | .fail => "fail"
  | .warning => "warning"
  | .skipped => "skipped"

def ofName? (name : String) : Option Status :=
  all.find? (·.name == name)

end Status

structure Check where
  id : String
  name : String
  suite : Suite
  status : Status
  message : String
  details : Option String := none
  affected : List String := []
deriving DecidableEq, Repr

/-- Details and nodes are left out when there are none. -/
def Check.toJson (c : Check) : Json :=
  .obj <| [
    ("id", .str c.id),
    ("name", .str c.name),
    ("type", .str c.suite.name),
    ("status", .str c.status.name),
    ("message", .str c.message)]
    ++ (match c.details with
      | some d => [("details", .str d)]
      | none => [])
    ++ (if c.affected.isEmpty then [] else [("affectedNodes", .strings c.affected)])

/-- How many checks of a run have each status. -/
structure CheckSummary where
  total : Nat
  passed : Nat
  failed : Nat
  warnings : Nat
  skipped : Nat
deriving DecidableEq, Repr

namespace CheckSummary

def ofChecks (checks : List Check) : CheckSummary where
  total := checks.length
  passed := checks.countP (·.status == .pass)
  failed := checks.countP (·.status == .fail)
  warnings := checks.countP (·.status == .warning)
  skipped := checks.countP (·.status == .skipped)

/-- Whether nothing failed. -/
def gate (s : CheckSummary) : Bool :=
  s.failed == 0

def toJson (s : CheckSummary) : Json :=
  .obj [
    ("total", .ofNat s.total),
    ("passed", .ofNat s.passed),
    ("failed", .ofNat s.failed),
    ("warnings", .ofNat s.warnings),
    ("skipped", .ofNat s.skipped)]

end CheckSummary

end CloudGraph

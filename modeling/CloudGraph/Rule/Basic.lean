import CloudGraph.Rule.Finding
import CloudGraph.Rule.Pattern

/-!
# Rules

A rule is a pattern with the text that its findings carry. `Rule.evaluate` turns the offenders
into findings: one for each, or one for all of them. Either way the findings name every offender
once, in declaration order.
-/

namespace CloudGraph

/-- How offenders become findings. -/
inductive Scope where
  /-- One finding for all offenders. -/
  | aggregate
  /-- One finding for each offender, where the pattern looks at single nodes. -/
  | perNode
deriving DecidableEq, Repr

structure Rule where
  id : String
  title : String
  description : String
  severity : Severity
  category : RuleCategory
  remediation : String
  references : List String
  autoFixable : Bool
  scope : Scope
  pattern : Pattern
deriving DecidableEq, Repr

namespace Rule

def finding (r : Rule) (id title description : String) (nodes : List Node) : Finding where
  id := id
  ruleId := r.id
  severity := r.severity
  category := r.category
  title := title
  description := description
  affected := nodes.map (·.id)
  remediation := r.remediation
  references := r.references
  autoFixable := some r.autoFixable

/-- The finding for one offender. -/
def findingFor (r : Rule) (n : Node) : Finding :=
  r.finding (r.id ++ ":" ++ n.id) (r.title ++ ": " ++ n.displayName) r.description [n]

/-- The finding for all offenders. -/
def findingForAll (r : Rule) (nodes : List Node) : Finding :=
  let names := ", ".intercalate (nodes.map (·.displayName))
  r.finding r.id r.title (r.description ++ " Affected: " ++ names ++ ".") nodes

def evaluate (r : Rule) (g : Graph) : List Finding :=
  let offenders := r.pattern.offenders g
  if offenders.isEmpty then []
  else if r.scope = .perNode ∧ r.pattern.isNodeScoped then offenders.map r.findingFor
  else [r.findingForAll offenders]

end Rule

/-- The findings of rules, in their order. -/
def runRules (rules : List Rule) (g : Graph) : List Finding :=
  rules.flatMap (·.evaluate g)

end CloudGraph

import CloudGraph.Graph.Basic

/-!
# Rule patterns

A pattern answers one question about a graph: which nodes offend. Offenders come in the order of
the declarations. Every rule is one of these patterns with a text around it.
-/

namespace CloudGraph

/-- Instance sizes that are too large for most workloads. -/
def largeInstanceSizes : List String := [
  "m5.8xlarge", "m5.12xlarge", "m5.16xlarge", "m5.24xlarge", "c5.9xlarge", "c5.18xlarge",
  "r5.12xlarge", "r5.24xlarge", "x1.32xlarge", "Standard_D32s_v5", "Standard_D48s_v5",
  "Standard_D64s_v5", "Standard_E64s_v5", "Standard_M128s", "n2-standard-32", "n2-standard-64",
  "n2-highmem-64", "m1-ultramem-160", "xlarge", "2xlarge"]

/-- Regions inside the European Union. -/
def euRegions : List String := [
  "eu-west-1", "eu-west-2", "eu-west-3", "eu-central-1", "eu-central-2", "eu-north-1",
  "eu-south-1", "eu-south-2", "westeurope", "northeurope", "francecentral", "germanywestcentral",
  "swedencentral", "italynorth", "polandcentral", "europe-west1", "europe-west2", "europe-west3",
  "europe-west4", "europe-west6", "europe-north1", "europe-central2"]

/-- Whether a name is on a list, up to blanks around it and the case of ASCII letters. -/
def isListed (names : List String) (name : String) : Bool :=
  names.any (Text.eqIgnoringAsciiCase · (Text.trim name))

/-- Which value of a setting is unsafe: an explicit yes, or anything but that. -/
inductive UnsafeWhen where
  | isTrue | isNotTrue
deriving DecidableEq, Repr

def UnsafeWhen.matches : UnsafeWhen → Option Bool → Bool
  | .isTrue, value => value == some true
  | .isNotTrue, value => value != some true

inductive Pattern where
  /-- Some node holds a role of `present`, and none holds `absent`. -/
  | roleAbsence (present : List Role) (absent : Role)
  /-- Nodes of `roles` with an unsafe value of a setting. -/
  | configFlag (roles : List Role) (flag : Flag) (unsafeWhen : UnsafeWhen)
  /-- Nodes that run in several copies without a balancer in the graph. -/
  | unbalancedReplicas (role balancer : Role)
  /-- All nodes of a role, if each runs in a single copy. -/
  | singlePointOfFailure (role : Role)
  /-- Nodes that no edge touches. -/
  | isolation (exempt : List Role)
  /-- Nodes of `roles` that state a region outside `allowed`. -/
  | geography (roles : List Role) (allowed : List String)
  /-- Nodes of `roles` with a size from `sizes`, if there are more than `threshold`. -/
  | cardinality (roles : List Role) (sizes : List String) (threshold : Nat)
deriving DecidableEq, Repr

def Node.hasAnyRole (n : Node) (roles : List Role) : Bool :=
  roles.any n.hasRole

namespace Pattern

/-- The nodes that offend, in declaration order. -/
def offenders (p : Pattern) (g : Graph) : List Node :=
  match p with
  | .roleAbsence present absent =>
    if g.hasRole absent then [] else g.nodes.filter (·.hasAnyRole present)
  | .configFlag roles flag unsafeWhen =>
    g.nodes.filter fun n => n.hasAnyRole roles && unsafeWhen.matches (n.view.flag? flag)
  | .unbalancedReplicas role balancer =>
    if g.hasRole balancer then [] else (g.withRole role).filter fun n => 1 < n.view.replicas
  | .singlePointOfFailure role =>
    if (g.withRole role).all (·.view.replicas == 1) then g.withRole role else []
  | .isolation exempt =>
    g.nodes.filter fun n => !n.hasAnyRole exempt && !g.edges.any (·.touches n.id)
  | .geography roles allowed =>
    g.nodes.filter fun n => n.hasAnyRole roles && match n.view.region? with
      | some region => !isListed allowed region
      | none => false
  | .cardinality roles sizes threshold =>
    let large := g.nodes.filter fun n => n.hasAnyRole roles && match n.view.instanceSize? with
      | some size => isListed sizes size
      | none => false
    if threshold < large.length then large else []

/-- Whether each offender stands for itself; otherwise they offend as a set. -/
def isNodeScoped : Pattern → Bool
  | .configFlag .. | .isolation .. | .geography .. | .unbalancedReplicas .. => true
  | .roleAbsence .. | .singlePointOfFailure .. | .cardinality .. => false

end Pattern

end CloudGraph

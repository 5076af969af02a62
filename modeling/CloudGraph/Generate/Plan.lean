import CloudGraph.Generate.Dependencies
import CloudGraph.Generate.Mapping
import CloudGraph.Graph.Basic
import CloudGraph.Total

/-!
# Generation plans

A plan is what all targets generate from. Each node with a mapping becomes a resource with a
name of its own; the others are skipped. An edge between two resources makes its target depend
on its source, unless that would close a cycle: such an edge is dropped with a warning. The
resources stand in an order in which each comes after those it depends on, and in declaration
order where that leaves a choice.
-/

namespace CloudGraph

structure PlannedResource where
  name : String
  node : Node
  mapping : ResourceMapping
  /-- The names of the resources it depends on, in the order of the edges. -/
  dependsOn : List String
deriving BEq

namespace PlannedResource

/-- The defaults of the mapping, overlaid with the configuration of the node. -/
def properties (r : PlannedResource) : SortedMap Json :=
  r.node.configuration.entries.foldl (fun m e => m.insert e.1 e.2)
    (.ofList (r.mapping.defaults.map fun d => (d.1, d.2.toJson)))

/-- Whether the node itself sets a key. -/
def isConfigured (r : PlannedResource) (key : String) : Bool :=
  (r.node.configuration.get? key).isSome

/-- Add an entry under its converted key; a default gives way to what is there. -/
def addConverted (r : PlannedResource) (convert : String → String) (m : SortedMap Json)
    (entry : String × Json) : SortedMap Json :=
  if (m.get? (convert entry.1)).isSome && !r.isConfigured entry.1 then m
  else m.insert (convert entry.1) entry.2

/-- The properties under converted keys. Where keys become equal, a setting of the node wins
over a default, and else the later key of two settings, the earlier of two defaults. -/
def propertiesKeyed (r : PlannedResource) (convert : String → String) : SortedMap Json :=
  r.properties.entries.foldl (r.addConverted convert) .empty

end PlannedResource

/-- A node without a resource. -/
structure SkippedNode where
  nodeId : String
  componentType : String
  reason : String
deriving DecidableEq, Repr

def SkippedNode.toJson (s : SkippedNode) : Json :=
  .obj [
    ("nodeId", .str s.nodeId),
    ("componentType", .str s.componentType),
    ("reason", .str s.reason)]

structure Plan where
  resources : List PlannedResource
  skipped : List SkippedNode
  warnings : List String

namespace Plan

/-- The nodes that have a mapping, in declaration order. -/
def mapped (target : Target) (nodes : List Node) : List (Node × ResourceMapping) :=
  nodes.filterMap fun n => (target.mapping? n.componentType).map (n, ·)

/-- The nodes that have none. -/
def unmapped (target : Target) (nodes : List Node) : List SkippedNode :=
  (nodes.filter fun n => (target.mapping? n.componentType).isNone).map fun n =>
    { nodeId := n.id
      componentType := n.componentType
      reason := "no " ++ target.name ++ " mapping for component type `" ++ n.componentType ++ "`" }

/-- The text that the name of a node's resource comes from. -/
def rawName (n : Node) : String :=
  if Text.isBlankText n.label then n.id else n.label

/-- The allocator that names the resources of a target. -/
def allocator (target : Target) : NameAllocator where
  maxLength := target.maxIdentifierLength
  style := target.identifierStyle
  used := target.reservedNames

def droppedWarning (e : Edge) : String :=
  "dropped edge `" ++ e.id ++ "` (" ++ e.source ++ " -> " ++ e.target
    ++ "): it would create a dependency cycle"

/-- The index of an id, and the last one if the id is there more than once. -/
def indexOf? (ids : List String) (id : String) : Option Nat :=
  (ids.zipIdx.reverse.find? (·.1 == id)).map (·.2)

/-- Add an edge to the table; an edge that would close a cycle joins the dropped ones. -/
def wireEdge (ids : List String) (wired : DependencyTable × List Edge) (e : Edge) :
    DependencyTable × List Edge :=
  match indexOf? ids e.source, indexOf? ids e.target with
  | some source, some target =>
    match wired.1.add source target with
    | .present => wired
    | .cyclic => (wired.1, wired.2 ++ [e])
    | .added table => (table, wired.2)
  | _, _ => wired

/-- The dependencies that edges make between the nodes with these ids, and the edges dropped. -/
def wire (ids : List String) (edges : List Edge) : DependencyTable × List Edge :=
  edges.foldl (wireEdge ids) (.empty ids.length, [])

/-- The resource at an index, with its dependencies by name. -/
def resourceAt? (mapped : List (Node × ResourceMapping)) (names : List String)
    (table : DependencyTable) (i : Nat) : Option PlannedResource :=
  match mapped[i]?, names[i]? with
  | some (node, mapping), some name =>
    some { name, node, mapping, dependsOn := (table.row i).filterMap (names[·]?) }
  | _, _ => none

def ofGraph (target : Target) (g : Graph) : Plan :=
  let mapped := mapped target g.nodes
  let names := ((allocator target).allocateAll (mapped.map fun m => rawName m.1)).1
  let (table, dropped) := wire (mapped.map (·.1.id)) g.edges
  { resources := table.order.filterMap (resourceAt? mapped names table)
    skipped := unmapped target g.nodes
    warnings := dropped.map droppedWarning }

/-- How many dependencies the resources have together. -/
def dependencyCount (p : Plan) : Nat :=
  total (fun r => r.dependsOn.length) p.resources

/-- The node id of each resource name. -/
def nameMap (p : Plan) : SortedMap String :=
  .ofList (p.resources.map fun r => (r.name, r.node.id))

/-- The resource with a name. -/
def resource? (p : Plan) (name : String) : Option PlannedResource :=
  p.resources.find? (·.name == name)

end Plan

end CloudGraph

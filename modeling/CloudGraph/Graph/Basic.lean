import CloudGraph.Graph.Role
import CloudGraph.Graph.View

/-!
# The infrastructure graph

A node is a placed component, and an edge says that its source feeds or enables its target.
Edges may name nodes that do not exist. `Graph.reachableFrom` lists what a directed chain of
edges leads to, nearest first.
-/

namespace CloudGraph

structure Node where
  id : String
  componentType : String
  category : Category := .other
  provider : Provider := .generic
  configuration : Configuration := .empty
  label : String := ""
deriving BEq, Inhabited

namespace Node

/-- A node with the category and provider that the catalog has for its type. -/
def ofType (id componentType : String) : Node :=
  match Catalog.find? componentType with
  | some entry =>
    { id, componentType, category := entry.category, provider := entry.provider }
  | none => { id, componentType }

def withLabel (node : Node) (label : String) : Node :=
  { node with label }

def withSetting (node : Node) (key : String) (value : Json) : Node :=
  { node with configuration := node.configuration.insert key value }

/-- The category of the catalog, or that of the node if the catalog has none. -/
def knownCategory (node : Node) : Category :=
  match Catalog.find? node.componentType with
  | some entry => entry.category
  | none => node.category

/-- What the analyses read from the configuration. -/
def view (node : Node) : View :=
  .ofCategory node.knownCategory node.configuration

def hasRole (node : Node) (role : Role) : Bool :=
  role.holds node.componentType

/-- The label, or the component type if the label is blank. -/
def displayName (node : Node) : String :=
  if Text.isBlankText node.label then node.componentType else node.label

end Node

structure Edge where
  id : String
  source : String
  target : String
deriving DecidableEq, Repr, Inhabited

/-- Whether the edge starts or ends at the node. -/
def Edge.touches (edge : Edge) (nodeId : String) : Bool :=
  edge.source == nodeId || edge.target == nodeId

structure Graph where
  nodes : List Node := []
  edges : List Edge := []
deriving BEq, Inhabited

namespace Graph

def isEmpty (g : Graph) : Bool :=
  g.nodes.isEmpty

/-- The node with an id. -/
def node? (g : Graph) (id : String) : Option Node :=
  g.nodes.find? (·.id == id)

def contains (g : Graph) (id : String) : Bool :=
  (g.node? id).isSome

/-- The nodes that hold a role, in declaration order. -/
def withRole (g : Graph) (role : Role) : List Node :=
  g.nodes.filter (·.hasRole role)

def hasRole (g : Graph) (role : Role) : Bool :=
  g.nodes.any (·.hasRole role)

def edgesTouching (g : Graph) (nodeId : String) : List Edge :=
  g.edges.filter (·.touches nodeId)

/-- The existing nodes that edges from a node lead to, in the order of the edges. -/
def outgoing (g : Graph) (nodeId : String) : List Node :=
  (g.edges.filter (·.source == nodeId)).filterMap fun e => g.node? e.target

/-- The first id that an earlier node already has. -/
def duplicateIdAfter (seen : List String) : List Node → Option String
  | [] => none
  | n :: rest =>
    if seen.contains n.id then some n.id else duplicateIdAfter (n.id :: seen) rest

def duplicateId? (g : Graph) : Option String :=
  duplicateIdAfter [] g.nodes

/-! ## Reachability -/

/-- The nodes whose id is not yet seen, each id once. -/
def unseen (seen : List String) : List Node → List Node
  | [] => []
  | n :: rest =>
    if seen.contains n.id then unseen seen rest else n :: unseen (n.id :: seen) rest

/-- Breadth-first walk: `seen` holds the ids already met and `queue` those still to expand. -/
def walk (g : Graph) : Nat → List String → List String → List Node
  | 0, _, _ => []
  | _, _, [] => []
  | fuel + 1, seen, current :: queue =>
    let fresh := unseen seen (g.outgoing current)
    let ids := fresh.map (·.id)
    fresh ++ walk g fuel (ids ++ seen) (queue ++ ids)

/-- The nodes at the end of a directed chain from `start`, other than `start`, nearest first.
Each node enters the queue once, so the number of nodes bounds the steps. -/
def reachableFrom (g : Graph) (start : String) : List Node :=
  g.walk (g.nodes.length + 1) [start] [start]

/-- The first node on the way out from `start` that satisfies `p`. -/
def reachable? (g : Graph) (start : String) (p : Node → Bool) : Option Node :=
  (g.reachableFrom start).find? p

end Graph

end CloudGraph

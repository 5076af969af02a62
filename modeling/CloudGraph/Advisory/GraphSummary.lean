import CloudGraph.Graph.Basic

/-!
# A graph in brief

What a chat model is told about a graph: the nodes under their display names, the edges by their
ends, and how many nodes each category and each provider has.
-/

namespace CloudGraph

namespace GraphSummary

def nodeJson (n : Node) : Json :=
  .obj [
    ("id", .str n.id),
    ("type", .str n.componentType),
    ("label", .str n.displayName),
    ("configuration", .obj n.configuration.entries)]

def edgeJson (e : Edge) : Json :=
  .obj [("from", .str e.source), ("to", .str e.target)]

/-- How often each name occurs, in the order of the names. -/
def tally (names : List String) : List (String × Nat) :=
  names.foldl (fun counts name => insertEntry name ((lookup name counts).getD 0 + 1) counts) []

def tallyJson (names : List String) : Json :=
  .obj ((tally names).map fun e => (e.1, .ofNat e.2))

end GraphSummary

/-- The brief description of a graph. -/
def Graph.summaryJson (g : Graph) : Json :=
  .obj [
    ("nodes", .arr (g.nodes.map GraphSummary.nodeJson)),
    ("edges", .arr (g.edges.map GraphSummary.edgeJson)),
    ("nodeCount", .ofNat g.nodes.length),
    ("edgeCount", .ofNat g.edges.length),
    ("byCategory", GraphSummary.tallyJson (g.nodes.map (·.category.name))),
    ("byProvider", GraphSummary.tallyJson (g.nodes.map (·.provider.name)))]

end CloudGraph

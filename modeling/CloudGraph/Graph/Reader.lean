import CloudGraph.Document
import CloudGraph.Files.Fault
import CloudGraph.Graph.Basic
import CloudGraph.Json.Writer
import CloudGraph.Yaml.Node.Reader

/-!
# Reading and writing graphs

A graph is read from JSON or YAML. Only the id and the type of a node and the three parts of an
edge are required; node ids must differ. `Graph.toJson` writes every field in the order of the
declarations, and the text of it is read back as the same graph.
-/

namespace CloudGraph

/-- Why a graph is not read. -/
inductive GraphError where
  | unreadable (fault : FileFault)
  | malformedJson
  | malformedYaml
  | unknownProvider (name : String)
  | duplicateNode (id : String)
deriving DecidableEq, Repr

def GraphError.message : GraphError → String
  | .unreadable fault => "Failed to read graph file: " ++ fault.message
  | .malformedJson => "Invalid graph JSON"
  | .malformedYaml => "Invalid graph YAML"
  | .unknownProvider name => "Unknown provider: " ++ name
  | .duplicateNode id => "Duplicate node id: " ++ id

/-- The provider that a user typed, in any case of letters. -/
def Provider.parse (text : String) : Except GraphError Provider :=
  let name := Text.lowercase text
  match ofTyped? name with
  | some provider => .ok provider
  | none => .error (.unknownProvider name)

namespace Node

def fieldNames : List String :=
  ["id", "componentType", "category", "provider", "configuration", "label"]

/-- How many collections stand around a node's configuration. -/
def configurationLevel : Nat := 3

def ofDocument? {τ : Type} [BagDocument τ] (doc : τ) : Option Node := do
  let fields ← Document.record? fieldNames doc
  let id ← Document.required fields "id" Document.text?
  let componentType ← Document.required fields "componentType" Document.text?
  let category ← Document.optional fields "category" .other fun d =>
    (Document.choice? d).map Category.ofName
  let provider ← Document.optional fields "provider" .generic fun d =>
    (Document.choice? d).map Provider.ofName
  let configuration ← Document.optional fields "configuration" .empty fun d =>
    (BagDocument.members? configurationLevel d).map SortedMap.ofList
  let label ← Document.optional fields "label" "" Document.text?
  return { id, componentType, category, provider, configuration, label }

def toJson (n : Node) : Json :=
  .obj [
    ("id", .str n.id),
    ("componentType", .str n.componentType),
    ("category", .str n.category.name),
    ("provider", .str n.provider.name),
    ("configuration", .obj n.configuration.entries),
    ("label", .str n.label)]

end Node

namespace Edge

def fieldNames : List String := ["id", "source", "target"]

def ofDocument? {τ : Type} [Document τ] (doc : τ) : Option Edge := do
  let fields ← Document.record? fieldNames doc
  let id ← Document.required fields "id" Document.text?
  let source ← Document.required fields "source" Document.text?
  let target ← Document.required fields "target" Document.text?
  return { id, source, target }

def toJson (e : Edge) : Json :=
  .obj [("id", .str e.id), ("source", .str e.source), ("target", .str e.target)]

end Edge

namespace Graph

def fieldNames : List String := ["nodes", "edges"]

def ofDocument? {τ : Type} [BagDocument τ] (doc : τ) : Option Graph := do
  let fields ← Document.record? fieldNames doc
  let nodes ← Document.optional fields "nodes" [] fun d => do
    (← Document.items? d).mapM Node.ofDocument?
  let edges ← Document.optional fields "edges" [] fun d => do
    (← Document.items? d).mapM Edge.ofDocument?
  return { nodes, edges }

def toJson (g : Graph) : Json :=
  .obj [("nodes", .arr (g.nodes.map Node.toJson)), ("edges", .arr (g.edges.map Edge.toJson))]

/-- A graph whose nodes have different ids. -/
def checked (g : Graph) : Except GraphError Graph :=
  match g.duplicateId? with
  | some id => .error (.duplicateNode id)
  | none => .ok g

def ofRaw (r : Raw) : Except GraphError Graph :=
  match ofDocument? r with
  | some g => g.checked
  | none => .error .malformedJson

def ofJsonText (text : String) : Except GraphError Graph :=
  match Raw.ofText? text with
  | some r => ofRaw r
  | none => .error .malformedJson

/-- The parts of a YAML document that make a graph. -/
def extent : Yaml.Extent :=
  let whole (names : List String) : Yaml.Extent := .fields (names.map fun name => (name, .whole))
  .fields [("nodes", .items (whole Node.fieldNames)), ("edges", .items (whole Edge.fieldNames))]

/-- A YAML text without a document is the empty graph, and one that takes too many copies is not
read. -/
def ofYamlText (text : String) : Except GraphError Graph :=
  match (Yaml.Node.ofText? text).map (·.getD .empty) with
  | some doc =>
    match if doc.isAffordable extent then ofDocument? doc else none with
    | some g => g.checked
    | none => .error .malformedYaml
  | none => .error .malformedYaml

end Graph

end CloudGraph

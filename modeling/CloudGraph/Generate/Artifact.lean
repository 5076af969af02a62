import CloudGraph.Generate.Plan
import CloudGraph.Generate.Template

/-!
# Artifacts

What generation yields: named documents, and an account of the plan behind them. Where a
document cannot be written, the account goes with the error and says how far generation came.
-/

namespace CloudGraph

inductive DocumentBody where
  | text (content : String)
  /-- A value and the text it is written as. -/
  | structured (value : Json) (content : String)

structure GeneratedDocument where
  name : String
  body : DocumentBody

def DocumentBody.toJson : DocumentBody → Json
  | .text content => .obj [("kind", .str "text"), ("content", .str content)]
  | .structured value content =>
    .obj [("kind", .str "structured"), ("value", value), ("content", .str content)]

namespace GeneratedDocument

def toJson (d : GeneratedDocument) : Json :=
  .obj [("name", .str d.name), ("body", d.body.toJson)]

def content (d : GeneratedDocument) : String :=
  match d.body with
  | .text content | .structured _ content => content

def value? (d : GeneratedDocument) : Option Json :=
  match d.body with
  | .text _ => none
  | .structured value _ => some value

end GeneratedDocument

/-- Why a document cannot be written. -/
inductive DocumentError where
  /-- A setting whose key is no attribute name of the target. -/
  | invalidAttribute (nodeId key : String)
  /-- A template that cannot be filled in. -/
  | template (name : String)
deriving DecidableEq, Repr

def DocumentError.message : DocumentError → String
  | .invalidAttribute nodeId key =>
    "Cannot serialize node `" ++ nodeId ++ "`: configuration key `" ++ key
      ++ "` is not a valid HCL attribute name"
  | .template name => "Template error: " ++ name

/-- Fill in a template of a program. -/
def Template.fill (t : Template) (data : Json) : Except DocumentError String :=
  match t.render data with
  | some text => .ok text
  | none => .error (.template t.name)

structure Artifact where
  target : Target
  documents : List GeneratedDocument := []
  /-- The node id of each resource name. -/
  nameMap : SortedMap String
  skipped : List SkippedNode
  warnings : List String
  resourceCount : Nat
  dependencyCount : Nat

namespace Artifact

/-- The account of a plan, without documents. -/
def ofPlan (target : Target) (p : Plan) : Artifact where
  target
  nameMap := p.nameMap
  skipped := p.skipped
  warnings := p.warnings
  resourceCount := p.resources.length
  dependencyCount := p.dependencyCount

def toJson (a : Artifact) : Json :=
  .obj [
    ("format", .str a.target.name),
    ("documents", .arr (a.documents.map GeneratedDocument.toJson)),
    ("nameMap", .obj (a.nameMap.entries.map fun e => (e.1, .str e.2))),
    ("skipped", .arr (a.skipped.map SkippedNode.toJson)),
    ("warnings", .strings a.warnings),
    ("resourceCount", .ofNat a.resourceCount),
    ("dependencyCount", .ofNat a.dependencyCount)]

def skippedCount (a : Artifact) : Nat :=
  a.skipped.length

def document? (a : Artifact) (name : String) : Option GeneratedDocument :=
  a.documents.find? (·.name == name)

/-- The name of a node's resource. -/
def nameFor? (a : Artifact) (nodeId : String) : Option String :=
  (a.nameMap.entries.find? (·.2 == nodeId)).map (·.1)

end Artifact

/-- A failed generation, with the account of its plan. -/
structure GenerationFailure where
  target : Target
  cause : DocumentError
  account : Artifact

def GenerationFailure.message (f : GenerationFailure) : String :=
  f.target.name ++ " generation failed: " ++ f.cause.message

end CloudGraph

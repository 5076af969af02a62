import CloudGraph.Advisory.Extract
import CloudGraph.Document
import CloudGraph.Graph.Basic
import CloudGraph.Rule.Finding

/-!
# Suggestions

A model answers with an array of objects. An item with a title becomes a finding of the category
`advisory`; of the nodes that it names, those of the graph are kept, each once. An item without
a title, or with a field of the wrong type or given twice, is dropped.
-/

namespace CloudGraph.Advisory

/-- A finding as a model words it. -/
structure Suggestion where
  id : Option String := none
  title : Option String := none
  description : Option String := none
  severity : Option String := none
  affected : List String := []
  remediation : Option String := none
  references : List String := []
deriving DecidableEq, Repr

namespace Suggestion

def fieldNames : List String :=
  ["id", "title", "description", "severity", "affectedResources", "remediation", "references"]

/-- The field that a name stands for; some fields go by several names. -/
def canonicalName (name : String) : String :=
  match name with
  | "affected_resources" | "resources" | "nodes" => "affectedResources"
  | "recommendation" | "fix" => "remediation"
  | _ => name

/-- A value whose fields go by their first names. -/
def canonical (v : Json) : Raw :=
  match v.toRaw with
  | .object members => .object (members.map fun m => (m.1.map canonicalName, m.2))
  | r => r

def texts? (r : Raw) : Option (List String) := do
  (← Document.items? r).mapM Document.text?

def ofJson? (v : Json) : Option Suggestion := do
  let fields ← Document.record? fieldNames (canonical v)
  let id ← Document.nullable fields "id" Document.text?
  let title ← Document.nullable fields "title" Document.text?
  let description ← Document.nullable fields "description" Document.text?
  let severity ← Document.nullable fields "severity" Document.text?
  let affected ← Document.optional fields "affectedResources" [] texts?
  let remediation ← Document.nullable fields "remediation" Document.text?
  let references ← Document.optional fields "references" [] texts?
  return { id, title, description, severity, affected, remediation, references }

/-- Whether the suggestion has a title that is not blank. -/
def isTitled (s : Suggestion) : Bool :=
  s.title.any fun t => !Text.isBlankText t

/-- What the ids of advisory findings start with. -/
def idMark : List Char := ['a', 'i', '-']

/-- A text without the marks that it starts with. -/
def dropMarks : List Char → List Char
  | 'a' :: 'i' :: '-' :: rest => dropMarks rest
  | cs => cs

/-- The id of a finding: that of the suggestion, or its place among those that are kept. -/
def findingId (s : Suggestion) (index : Nat) : String :=
  let given := Text.trimChars (s.id.getD "").toList
  String.ofList <| idMark ++
    if given.isEmpty then Decimal.digitText (index + 1) else dropMarks given

/-- The nodes of a graph among some ids, each once. -/
def knownNodes (g : Graph) (ids : List String) : List String :=
  ids.foldl (fun known id =>
    if g.contains id && !known.contains id then known ++ [id] else known) []

def toFinding (g : Graph) (index : Nat) (s : Suggestion) : Finding where
  id := s.findingId index
  ruleId := "advisory"
  severity := Severity.normalize (s.severity.getD "low")
  category := .advisory
  title := s.title.getD ""
  description := s.description.getD ""
  affected := knownNodes g s.affected
  remediation := s.remediation.getD ""
  references := s.references
  autoFixable := none

end Suggestion

/-- The findings of an array in JSON; none if it is not an array. -/
def parseFindings? (array : String) (g : Graph) : Option (List Finding) :=
  match Json.ofText? array with
  | some (.arr items) =>
    let kept := (items.filterMap Suggestion.ofJson?).filter (·.isTitled)
    some (kept.mapIdx fun i s => s.toFinding g i)
  | _ => none

end CloudGraph.Advisory

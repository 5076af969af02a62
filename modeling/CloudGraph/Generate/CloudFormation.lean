import CloudGraph.Generate.Artifact
import CloudGraph.Yaml.Writer

/-!
# CloudFormation templates

`template.yaml` is one document: the node id of each resource, the resources with their
settings in Pascal case, and a reference to each resource.
-/

namespace CloudGraph.CloudFormation

def nodeId (r : PlannedResource) : String × Json :=
  (r.name, .object [("NodeId", .str r.node.id)])

/-- The entry of a resource. -/
def entry (r : PlannedResource) : String × Json :=
  (r.name, .object [
    ("Type", .str r.mapping.resourceType),
    ("DependsOn", .strings r.dependsOn),
    ("Properties", .obj (r.propertiesKeyed Text.pascalCase).entries)])

def output (r : PlannedResource) : String × Json :=
  (r.name ++ "Ref", .object [
    ("Description", .str ("Reference to " ++ r.node.displayName)),
    ("Value", .object [("Ref", .str r.name)])])

def parameters : Json :=
  .object [("Environment", .object [
    ("Type", .str "String"),
    ("Default", .str "dev"),
    ("AllowedValues", .strings ["dev", "staging", "prod"])])]

def template (p : Plan) : Json :=
  .object [
    ("AWSTemplateFormatVersion", .str "2010-09-09"),
    ("Description", .str "Infrastructure template generated by infragraph"),
    ("Parameters", parameters),
    ("Mappings", .object [("ResourceNodes", .object (p.resources.map nodeId))]),
    ("Resources", .object (p.resources.map entry)),
    ("Outputs", .object (p.resources.map output))]

def documents (p : Plan) : List GeneratedDocument :=
  [⟨"template.yaml", .structured (template p) (Yaml.write (template p))⟩]

end CloudGraph.CloudFormation

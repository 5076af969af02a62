import CloudGraph.Generate.Artifact
import CloudGraph.Json.Writer

/-!
# Azure Resource Manager templates

`azuredeploy.json` is one document: a variable for the name of each resource, an entry for each
resource and an output for its id. The settings `kind`, `location`, `sku`, `tags` and `zones`
stand in the entry itself and all others under its `properties`.
-/

namespace CloudGraph.Arm

def schema : String :=
  "https://schema.management.azure.com/schemas/2019-04-01/deploymentTemplate.json#"

def defaultApiVersion : String := "2023-01-01"

/-- The settings that stand in a resource entry itself. -/
def topLevelKeys : List String := ["kind", "location", "sku", "tags", "zones"]

def variableName (name : String) : String :=
  name ++ "Name"

/-- The expression for the name of a resource. -/
def nameExpression (name : String) : String :=
  "[variables('" ++ variableName name ++ "')]"

/-- The expression for the id of a resource. -/
def resourceId (resourceType name : String) : String :=
  "[resourceId('" ++ resourceType ++ "', variables('" ++ variableName name ++ "'))]"

/-- The ids of the resources that a resource depends on. -/
def dependencies (p : Plan) (r : PlannedResource) : List String :=
  (r.dependsOn.filterMap p.resource?).map fun d => resourceId d.mapping.resourceType d.name

/-- The entry of a resource. -/
def entry (p : Plan) (r : PlannedResource) : Json :=
  let (own, inner) := (r.propertiesKeyed id).entries.partition fun e => topLevelKeys.contains e.1
  .object ([
      ("type", .str r.mapping.resourceType),
      ("apiVersion", .str (r.mapping.apiVersion.getD defaultApiVersion)),
      ("name", .str (nameExpression r.name)),
      ("location", .str "[parameters('location')]")]
    ++ own
    ++ [("properties", .obj inner), ("dependsOn", .strings (dependencies p r))])

def output (r : PlannedResource) : String × Json :=
  (r.name ++ "Id", .object [
    ("type", .str "string"),
    ("value", .str (resourceId r.mapping.resourceType r.name))])

def parameters : Json :=
  .object [("location", .object [
    ("type", .str "string"),
    ("defaultValue", .str "[resourceGroup().location]"),
    ("metadata", .object [("description", .str "Location for all resources")])])]

def template (p : Plan) : Json :=
  .object [
    ("$schema", .str schema),
    ("contentVersion", .str "1.0.0.0"),
    ("parameters", parameters),
    ("variables", .object (p.resources.map fun r => (variableName r.name, .str r.name))),
    ("resources", .arr (p.resources.map (entry p))),
    ("outputs", .object (p.resources.map output))]

def documents (p : Plan) : List GeneratedDocument :=
  [⟨"azuredeploy.json", .structured (template p) (template p).pretty⟩]

end CloudGraph.Arm

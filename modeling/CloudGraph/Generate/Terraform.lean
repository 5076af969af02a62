import CloudGraph.Generate.Artifact
import CloudGraph.Generate.Hcl

/-!
# Terraform programs

`main.tf` declares the providers that its resources need and a block for each resource;
`outputs.tf` has an output for each. An attribute is a line `name = expression`, its name the
key in snake case. A key without such a name makes generation fail.
-/

namespace CloudGraph.Terraform

/-! ## Templates -/

def providerTable : TemplatePart :=
  .each "providers" [
    .literal "    ", .value "name", .literal " = \x7b\n",
    .literal "      source = \"", .value "source", .literal "\"\n",
    .literal "    \x7d\n"]

def providerBlocks : TemplatePart :=
  .each "providers" [
    .literal "\nprovider \"", .value "name", .literal "\" \x7b\n",
    .each "body" [.literal "  ", .item, .literal "\n"],
    .literal "\x7d\n"]

def resourceBlocks : TemplatePart :=
  .each "resources" [
    .literal "\nresource \"", .value "resource_type", .literal "\" \"", .value "name",
    .literal "\" \x7b\n",
    .each "attributes" [.literal "  ", .item, .literal "\n"],
    .given "depends_on" true [
      .literal "\n  depends_on = [", .joined "depends_on" ", ", .literal "]\n"],
    .literal "\x7d\n"]

def mainTemplate : Template where
  name := "terraform_main"
  description := "Provider requirements and resource blocks"
  parts := [
    .literal "# Generated by infragraph. Do not edit by hand.\n\n",
    .literal "terraform \x7b\n  required_providers \x7b\n",
    providerTable,
    .literal "  \x7d\n\x7d\n",
    providerBlocks,
    resourceBlocks]

def outputsTemplate : Template where
  name := "terraform_outputs"
  description := "One output per resource"
  parts := [
    .literal "# Generated by infragraph. Do not edit by hand.\n",
    .each "resources" [
      .literal "\noutput \"", .value "name", .literal "_id\" \x7b\n",
      .literal "  value = ", .value "resource_type", .literal ".", .value "name",
      .literal ".id\n\x7d\n"]]

/-! ## Providers -/

/-- A provider serves the resource types that start with its stem. -/
structure CloudProvider where
  stem : String
  name : String
  body : String

def providers : List CloudProvider := [
  ⟨"aws_", "aws", "region = \"us-east-1\""⟩,
  ⟨"azurerm_", "azurerm", "features \x7b\x7d"⟩,
  ⟨"google_", "google", "region = \"europe-west1\""⟩]

/-- The providers that some resource needs. -/
def usedProviders (p : Plan) : List CloudProvider :=
  providers.filter fun provider =>
    p.resources.any fun r => provider.stem.toList.isPrefixOf r.mapping.resourceType.toList

def CloudProvider.toJson (c : CloudProvider) : Json :=
  .object [("name", .str c.name), ("source", .str ("hashicorp/" ++ c.name)),
    ("body", .strings [c.body])]

/-! ## Resources -/

/-- The attributes of a resource by name, each with its line. -/
abbrev Attributes := SortedMap String

/-- Add the line of a property; a default gives way to an attribute that is there. -/
def addAttribute (r : PlannedResource) (lines : Attributes) (entry : String × Json) :
    Except DocumentError Attributes :=
  let name := Text.snakeCase entry.1
  if !Hcl.isAttributeName name.toList then
    .error (.invalidAttribute r.node.id entry.1)
  else if (lines.get? name).isSome && !r.isConfigured entry.1 then
    .ok lines
  else
    .ok (lines.insert name (name ++ " = " ++ Hcl.text 2 entry.2))

/-- The attribute lines of a resource in the order of their names. -/
def attributes (r : PlannedResource) : Except DocumentError (List String) :=
  (r.properties.entries.foldlM (addAttribute r) .empty).map fun lines =>
    lines.entries.map (·.2)

/-- How a resource is referred to. -/
def address (r : PlannedResource) : String :=
  r.mapping.resourceType ++ "." ++ r.name

/-- The address of the resource with a name. -/
def addressOf (p : Plan) (name : String) : String :=
  match p.resource? name with
  | some r => address r
  | none => name

def resourceJson (p : Plan) (r : PlannedResource) : Except DocumentError Json :=
  (attributes r).map fun lines =>
    .object [("resource_type", .str r.mapping.resourceType), ("name", .str r.name),
      ("attributes", .strings lines),
      ("depends_on", .strings (r.dependsOn.map (addressOf p)))]

/-! ## Documents -/

def documents (p : Plan) : Except DocumentError (List GeneratedDocument) := do
  let resources ← p.resources.mapM (resourceJson p)
  let data := Json.object [
    ("providers", .arr ((usedProviders p).map CloudProvider.toJson)),
    ("resources", .arr resources)]
  let main ← mainTemplate.fill data
  let outputs ← outputsTemplate.fill data
  return [⟨"main.tf", .text main⟩, ⟨"outputs.tf", .text outputs⟩]

end CloudGraph.Terraform

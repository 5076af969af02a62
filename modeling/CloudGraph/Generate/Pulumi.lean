import CloudGraph.Generate.Artifact

/-!
# Pulumi programs

`index.ts` imports the packages that its resources need, declares a constant for each resource
and exports their ids; `Pulumi.yaml` names the project.
-/

namespace CloudGraph.Pulumi

/-! ## Templates -/

def indexTemplate : Template where
  name := "pulumi_index"
  description := "TypeScript program declaring each resource"
  parts := [
    .literal "// Generated by infragraph. Do not edit by hand.\n",
    .literal "import * as pulumi from \"@pulumi/pulumi\";\n",
    .each "packages" [
      .literal "import * as ", .value "alias", .literal " from \"", .value "module",
      .literal "\";\n"],
    .each "resources" [
      .literal "\nconst ", .value "name", .literal " = new ", .value "resource_type",
      .literal "(", .quoted "name", .literal ", ", .value "properties",
      .given "depends_on" false [
        .literal ", \x7b dependsOn: [", .joined "depends_on" ", ", .literal "] \x7d"],
      .literal ");\n"],
    .given "resources" true [
      .literal "\nexport const ids = \x7b\n",
      .each "resources" [
        .literal "  ", .value "name", .literal ": ", .value "name", .literal ".id,\n"],
      .literal "\x7d;\n"]]

def projectTemplate : Template where
  name := "pulumi_project"
  description := "Pulumi project file"
  parts := [
    .literal "name: ", .value "project",
    .literal "\nruntime: nodejs\ndescription: ", .value "description", .literal "\n"]

/-! ## Packages -/

/-- The packages by alias, which a resource type starts with. -/
def packages : List (String × String) := [
  ("aws", "@pulumi/aws"),
  ("azure_native", "@pulumi/azure-native"),
  ("gcp", "@pulumi/gcp")]

/-- The alias in a resource type: what stands before the first point. -/
def packageAlias (resourceType : String) : String :=
  String.ofList (resourceType.toList.takeWhile (· ≠ '.'))

/-- The packages that some resource needs. -/
def usedPackages (p : Plan) : List (String × String) :=
  packages.filter fun package =>
    p.resources.any fun r => packageAlias r.mapping.resourceType == package.1

/-! ## Documents -/

def resourceJson (r : PlannedResource) : Json :=
  .object [("name", .str r.name), ("resource_type", .str r.mapping.resourceType),
    ("properties", .str (Json.pretty (.obj r.properties.entries))),
    ("depends_on", .strings r.dependsOn)]

def indexData (p : Plan) : Json :=
  .object [
    ("packages", .arr ((usedPackages p).map fun package =>
      .object [("alias", .str package.1), ("module", .str package.2)])),
    ("resources", .arr (p.resources.map resourceJson))]

def projectData : Json :=
  .object [("project", .str "infragraph-stack"),
    ("description", .str "Infrastructure program generated by infragraph")]

def documents (p : Plan) : Except DocumentError (List GeneratedDocument) := do
  let index ← indexTemplate.fill (indexData p)
  let project ← projectTemplate.fill projectData
  return [⟨"index.ts", .text index⟩, ⟨"Pulumi.yaml", .text project⟩]

end CloudGraph.Pulumi

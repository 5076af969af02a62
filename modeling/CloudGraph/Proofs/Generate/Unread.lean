import CloudGraph.Generate.Generation
import Mathlib.Data.List.Basic

/-!
# What documents do not read

The documents of a plan are written from its resources alone: neither the skipped nodes nor the
warnings make a difference (`Target.documents_eq_of_resources`).

Of the node of a resource they leave out the category and the provider that it is stored with. The
mapping of a node comes from its type, and its properties from its configuration. So both can be
erased (`generate_unstored`). A function that reads a node only through its other fields gives the
same for the erased node by definition. What is left to prove is that erasing the nodes of a graph
is the same as erasing those of its plan, and that the documents, which find resources by name, find
the erased ones.

Both hold for every change of nodes that keeps their ids, types and labels
(`Plan.ofGraph_mapNodes`, `Plan.resource?_mapNodes`).
-/

namespace CloudGraph

theorem Target.documents_eq_of_resources (target : Target) {p p' : Plan}
    (h : p'.resources = p.resources) : target.documents p' = target.documents p := by
  obtain ⟨resources, skipped, warnings⟩ := p
  obtain ⟨_, skipped', warnings'⟩ := p'
  obtain rfl := h
  cases target <;> rfl

/-! ## Other nodes in the same places -/

def Graph.mapNodes (f : Node → Node) (g : Graph) : Graph :=
  { g with nodes := g.nodes.map f }

def PlannedResource.mapNode (f : Node → Node) (r : PlannedResource) : PlannedResource :=
  { r with node := f r.node }

def Plan.mapNodes (f : Node → Node) (p : Plan) : Plan :=
  { p with resources := p.resources.map fun r => r.mapNode f }

/-- What the names, the order and the warnings of a plan come from stays as it is. -/
structure Node.KeepsPlan (f : Node → Node) : Prop where
  id : ∀ n, (f n).id = n.id
  componentType : ∀ n, (f n).componentType = n.componentType
  label : ∀ n, (f n).label = n.label

namespace Plan

variable {f : Node → Node}

theorem mapped_map (hf : Node.KeepsPlan f) (target : Target) (nodes : List Node) :
    mapped target (nodes.map f) = (mapped target nodes).map fun m => (f m.1, m.2) := by
  unfold mapped
  rw [List.filterMap_map, List.map_filterMap]
  refine List.filterMap_congr fun n _ => ?_
  rw [Option.map_map, Function.comp_apply, hf.componentType]
  rfl

theorem unmapped_map (hf : Node.KeepsPlan f) (target : Target) (nodes : List Node) :
    unmapped target (nodes.map f) = unmapped target nodes := by
  unfold unmapped
  rw [List.filter_map, List.map_map]
  simp only [Function.comp_def, hf.componentType, hf.id]

theorem rawName_map (hf : Node.KeepsPlan f) (n : Node) : rawName (f n) = rawName n := by
  unfold rawName
  rw [hf.label, hf.id]

theorem resourceAt?_map (f : Node → Node) (ms : List (Node × ResourceMapping)) (names : List String)
    (table : DependencyTable) (i : Nat) :
    resourceAt? (ms.map fun m => (f m.1, m.2)) names table i =
      (resourceAt? ms names table i).map fun r => r.mapNode f := by
  unfold resourceAt?
  rw [List.getElem?_map]
  cases ms[i]? with
  | none => rfl
  | some m => cases names[i]? <;> rfl

theorem ofGraph_mapNodes (hf : Node.KeepsPlan f) (target : Target) (g : Graph) :
    ofGraph target (g.mapNodes f) = (ofGraph target g).mapNodes f := by
  dsimp only [ofGraph, Graph.mapNodes, Plan.mapNodes]
  rw [mapped_map hf, unmapped_map hf, List.map_map, List.map_map, List.map_filterMap,
    funext (resourceAt?_map f _ _ _)]
  simp only [Function.comp_def, rawName_map hf, hf.id]

theorem resource?_mapNodes (f : Node → Node) (p : Plan) (name : String) :
    (p.mapNodes f).resource? name = (p.resource? name).map fun r => r.mapNode f := by
  unfold resource? mapNodes
  rw [List.find?_map]
  rfl

end Plan

/-! ## Erasure -/

/-- The node without what it is stored with. -/
def Node.unstored (n : Node) : Node :=
  { n with category := .other, provider := .generic }

def Graph.unstored (g : Graph) : Graph :=
  { g with nodes := g.nodes.map Node.unstored }

def PlannedResource.unstored (r : PlannedResource) : PlannedResource :=
  { r with node := r.node.unstored }

def Plan.unstored (p : Plan) : Plan :=
  { p with resources := p.resources.map PlannedResource.unstored }

/-! ## Plans -/

namespace Plan

/-- The names, the order and the warnings come from the ids, the labels and the types. -/
theorem ofGraph_unstored (target : Target) (g : Graph) :
    ofGraph target g.unstored = (ofGraph target g).unstored :=
  ofGraph_mapNodes (f := Node.unstored) ⟨fun _ => rfl, fun _ => rfl, fun _ => rfl⟩ target g

theorem resource?_unstored (p : Plan) (name : String) :
    p.unstored.resource? name = (p.resource? name).map PlannedResource.unstored :=
  resource?_mapNodes Node.unstored p name

theorem nameMap_unstored (p : Plan) : p.unstored.nameMap = p.nameMap := by
  unfold nameMap unstored
  rw [List.map_map]
  rfl

theorem dependencyCount_unstored (p : Plan) : p.unstored.dependencyCount = p.dependencyCount := by
  unfold dependencyCount unstored
  rw [total_map]
  rfl

end Plan

/-! ## Documents -/

section Documents

variable (p : Plan) (r : PlannedResource)

theorem Terraform.addressOf_unstored (name : String) :
    addressOf p.unstored name = addressOf p name := by
  unfold addressOf
  rw [p.resource?_unstored]
  cases p.resource? name <;> rfl

theorem Terraform.resourceJson_unstored :
    resourceJson p.unstored r.unstored = resourceJson p r := by
  unfold resourceJson
  rw [funext (addressOf_unstored p)]
  rfl

theorem Terraform.documents_unstored : documents p.unstored = documents p := by
  have hresources : p.unstored.resources.mapM (resourceJson p.unstored) =
      p.resources.mapM (resourceJson p) := by
    show List.mapM (resourceJson p.unstored) (p.resources.map PlannedResource.unstored) = _
    rw [List.mapM_map]
    exact congrArg (List.mapM · p.resources) (funext (resourceJson_unstored p))
  have hproviders : usedProviders p.unstored = usedProviders p := by
    unfold usedProviders Plan.unstored
    simp only [List.any_map]
    rfl
  unfold documents
  rw [hresources, hproviders]

theorem Pulumi.documents_unstored : documents p.unstored = documents p := by
  have hdata : indexData p.unstored = indexData p := by
    unfold indexData usedPackages Plan.unstored
    simp only [List.any_map, List.map_map]
    rfl
  unfold documents
  rw [hdata]

theorem Arm.dependencies_mapNodes (f : Node → Node) :
    dependencies (p.mapNodes f) (r.mapNode f) = dependencies p r := by
  unfold dependencies
  rw [funext (p.resource?_mapNodes f), ← List.map_filterMap, List.map_map]
  rfl

theorem Arm.entry_unstored : entry p.unstored r.unstored = entry p r := by
  have hdependencies : dependencies p.unstored r.unstored = dependencies p r :=
    dependencies_mapNodes p r Node.unstored
  unfold entry
  rw [hdependencies]
  rfl

theorem Arm.documents_unstored : documents p.unstored = documents p := by
  have hentries : p.unstored.resources.map (entry p.unstored) = p.resources.map (entry p) := by
    show List.map (entry p.unstored) (p.resources.map PlannedResource.unstored) = _
    rw [List.map_map]
    exact congrArg (List.map · p.resources) (funext (entry_unstored p))
  have htemplate : template p.unstored = template p := by
    unfold template
    rw [hentries]
    unfold Plan.unstored
    simp only [List.map_map]
    rfl
  unfold documents
  rw [htemplate]

theorem CloudFormation.documents_unstored : documents p.unstored = documents p := by
  have htemplate : template p.unstored = template p := by
    unfold template Plan.unstored
    simp only [List.map_map]
    rfl
  unfold documents
  rw [htemplate]

theorem Target.documents_unstored (target : Target) :
    target.documents p.unstored = target.documents p := by
  cases target with
  | terraform => exact Terraform.documents_unstored p
  | pulumi => exact Pulumi.documents_unstored p
  | arm => exact congrArg Except.ok (Arm.documents_unstored p)
  | cloudFormation => exact congrArg Except.ok (CloudFormation.documents_unstored p)

theorem Artifact.ofPlan_unstored (target : Target) :
    ofPlan target p.unstored = ofPlan target p := by
  unfold ofPlan
  rw [p.nameMap_unstored, p.dependencyCount_unstored]
  unfold Plan.unstored
  rw [List.length_map]

theorem Artifact.ofFailedPlan_unstored (target : Target) (cause : DocumentError) :
    ofFailedPlan target p.unstored cause = ofFailedPlan target p cause := by
  unfold ofFailedPlan
  rw [ofPlan_unstored]
  unfold Plan.unstored
  cases cause with
  | template name => rfl
  | invalidAttribute nodeId key =>
    dsimp only
    rw [List.findIdx?_map]
    rfl

end Documents

/-- What nodes are stored with leaves no trace in what is generated. -/
theorem generate_unstored (target : Target) (g : Graph) :
    generate target g.unstored = generate target g := by
  unfold generate
  rw [Plan.ofGraph_unstored]
  dsimp only
  rw [Target.documents_unstored, Artifact.ofPlan_unstored,
    funext (Artifact.ofFailedPlan_unstored (Plan.ofGraph target g) target)]

end CloudGraph

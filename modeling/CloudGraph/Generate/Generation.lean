import CloudGraph.Generate.Arm
import CloudGraph.Generate.CloudFormation
import CloudGraph.Generate.Pulumi
import CloudGraph.Generate.Terraform

/-!
# Generation

`generate` plans a graph for a target and writes its documents. Only Terraform can fail on a
setting; the failure then counts the resources that come before the one at fault.
-/

namespace CloudGraph

namespace Target

/-- The documents of a plan. -/
def documents (target : Target) (p : Plan) : Except DocumentError (List GeneratedDocument) :=
  match target with
  | .terraform => Terraform.documents p
  | .pulumi => Pulumi.documents p
  | .arm => .ok (Arm.documents p)
  | .cloudFormation => .ok (CloudFormation.documents p)

/-- The templates of the targets whose output is a program. -/
def templates : Target → List Template
  | .terraform => [Terraform.mainTemplate, Terraform.outputsTemplate]
  | .pulumi => [Pulumi.indexTemplate, Pulumi.projectTemplate]
  | .arm | .cloudFormation => []

end Target

/-- The built-in template with a name. -/
def Template.named? (name : String) : Option Template :=
  (Target.all.flatMap Target.templates).find? (·.name == name)

/-- The account of a plan whose documents cannot be written. -/
def Artifact.ofFailedPlan (target : Target) (p : Plan) (cause : DocumentError) : Artifact :=
  let account := Artifact.ofPlan target p
  match cause with
  | .invalidAttribute nodeId _ =>
    { account with resourceCount := (p.resources.findIdx? (·.node.id == nodeId)).getD 0 }
  | .template _ => account

def generate (target : Target) (g : Graph) : Except GenerationFailure Artifact :=
  let p := Plan.ofGraph target g
  match target.documents p with
  | .ok documents => .ok { Artifact.ofPlan target p with documents }
  | .error cause => .error ⟨target, cause, .ofFailedPlan target p cause⟩

end CloudGraph

import CloudGraph.Generate.Mapping.Terraform
import CloudGraph.Generate.Mapping.Pulumi
import CloudGraph.Generate.Mapping.Arm
import CloudGraph.Generate.Mapping.CloudFormation

/-!
# Mappings of a target

Which resource a component type becomes in which target.
-/

namespace CloudGraph.Target

def mappings : Target → MappingTable
  | .terraform => Mapping.terraform
  | .pulumi => Mapping.pulumi
  | .arm => Mapping.arm
  | .cloudFormation => Mapping.cloudFormation

/-- The mapping of a component type, if the target has one. -/
def mapping? (target : Target) (componentType : String) : Option ResourceMapping :=
  (target.mappings.find? (·.1 == componentType)).map (·.2)

end CloudGraph.Target

import CloudGraph.Proofs.Generate.Closure.Pulumi
import CloudGraph.Proofs.Generate.Closure.Terraform
import CloudGraph.Proofs.Generate.Failure

/-!
# Closed programs

A program refers to nothing that it does not declare. `Terraform.program` and `Pulumi.program` read
the text of a program back without the plan: what it imports, what it declares, and the references
between its declarations. What they read in the program of a plan is closed, whatever the labels,
ids and settings of the nodes are.

A dependency clause is the one that the template of a block writes behind the attributes. A setting
is a line among the attributes, with its texts in quotes, also where it has the name `depends_on`;
such a line is an argument of the block, and no clause.
-/

namespace CloudGraph

/-- **Closed programs.** In a Terraform program, as far as it can be generated, each address in a
dependency clause is that of an earlier block, and the providers are those whose stem starts the
type of some block. In a Pulumi program each variable that a statement depends on is declared by an
earlier one, and the packages imported are those whose alias starts the type of some statement. No
block is without a provider and no statement without a package. -/
theorem programs_closed (g : Graph) :
    (∀ a : Artifact, generate .terraform g = .ok a → ∃ main outputs : String,
      a.documents = [⟨"main.tf", .text main⟩, ⟨"outputs.tf", .text outputs⟩] ∧
        Terraform.Closed (Plan.ofGraph .terraform g) (Terraform.program main.toList)) ∧
    ∃ (a : Artifact) (index project : String), generate .pulumi g = .ok a ∧
      a.documents = [⟨"index.ts", .text index⟩, ⟨"Pulumi.yaml", .text project⟩] ∧
        Pulumi.Closed (Plan.ofGraph .pulumi g) (Pulumi.program index.toList) := by
  constructor
  · intro a ha
    obtain ⟨documents, hdocuments, rfl⟩ := generate_eq_ok_iff.1 ha
    refine ⟨_, _, Terraform.documents_of_ok hdocuments, ?_⟩
    rw [String.toList_ofList]
    exact Terraform.closed_program g
  · obtain ⟨project, hdocuments⟩ := Pulumi.documents_eq (Plan.ofGraph .pulumi g)
    refine ⟨_, _, project, generate_eq_ok_iff.2 ⟨_, hdocuments, rfl⟩, rfl, ?_⟩
    rw [String.toList_ofList]
    exact Pulumi.closed_program g

/-- Settings that look like the end of a block and like dependencies. -/
theorem programs_closed_lookalikes :
    ∃ (g : Graph) (a : Artifact) (main outputs : String),
      g = {
        nodes := [
          (Node.ofType "app" "aws-ec2").withSetting "note"
            (.str "\x7d\n\n  depends_on = [aws_vpc.main]\n\x7d\n"),
          (Node.ofType "store" "azure-storage").withSetting "dependsOn"
            (.arr [.str "aws_vpc.main"]),
          Node.ofType "db" "aws-rds"]
        edges := [⟨"e1", "db", "app"⟩, ⟨"e2", "store", "app"⟩] } ∧
      generate .terraform g = .ok a ∧
      a.documents = [⟨"main.tf", .text main⟩, ⟨"outputs.tf", .text outputs⟩] ∧
      (Terraform.program main.toList).blocks.map
          (fun b => (b.type, b.name, b.dependsOn.length)) = [
        ("azurerm_storage_account", "store", 0),
        ("aws_db_instance", "db", 0),
        ("aws_instance", "app", 2)] := by
  let g : Graph := {
    nodes := [
      (Node.ofType "app" "aws-ec2").withSetting "note"
        (.str "\x7d\n\n  depends_on = [aws_vpc.main]\n\x7d\n"),
      (Node.ofType "store" "azure-storage").withSetting "dependsOn" (.arr [.str "aws_vpc.main"]),
      Node.ofType "db" "aws-rds"]
    edges := [⟨"e1", "db", "app"⟩, ⟨"e2", "store", "app"⟩] }
  have hkeys : ∀ r ∈ (Plan.ofGraph .terraform g).resources,
      Terraform.faultyKey? r.node = none := by decide +kernel
  obtain ⟨a, ha⟩ := exists_generate_terraform hkeys
  obtain ⟨main, outputs, hdocuments, hclosed⟩ := (programs_closed g).1 a ha
  refine ⟨g, a, main, outputs, rfl, ha, hdocuments, hclosed.blocks.trans ?_⟩
  decide +kernel

end CloudGraph

import CloudGraph.Generate.Generation
import CloudGraph.Proofs.Generate.Declarations.Pulumi
import CloudGraph.Proofs.Generate.Declarations.Terraform

/-!
# Declarations of a program

A program declares what the plan holds and nothing more. Labels, ids and settings of the nodes are
written into it as names, as keys and as values, and none of them can start a line with a keyword:
a name is a word, a key that is no attribute name makes generation fail or stands in quotes, and a
value hangs.
-/

namespace CloudGraph

open Text

/-- **Nothing injected, nothing hidden.** The blocks of a Terraform program and its outputs, as far
as it can be generated, are those of the planned resources in their order. The constants of a Pulumi
program are the resources and, if there are any, `ids`, each declared once. -/
theorem declarations_exact (g : Graph) :
    (∀ a : Artifact, generate .terraform g = .ok a → ∃ main outputs : String,
      a.documents = [⟨"main.tf", .text main⟩, ⟨"outputs.tf", .text outputs⟩] ∧
        readLines (lineFrom? "resource \"".toList) main.toList =
          (Plan.ofGraph .terraform g).resources.map (fun r =>
            ("resource \"" ++ r.mapping.resourceType ++ "\" \"" ++ r.name ++ "\" \x7b").toList) ∧
        readLines (lineFrom? "output \"".toList) outputs.toList =
          (Plan.ofGraph .terraform g).resources.map (fun r =>
            ("output \"" ++ r.name ++ "_id\" \x7b").toList)) ∧
    ∃ (a : Artifact) (index project : String), generate .pulumi g = .ok a ∧
      a.documents = [⟨"index.ts", .text index⟩, ⟨"Pulumi.yaml", .text project⟩] ∧
        readLines Pulumi.declared? index.toList =
          (Plan.ofGraph .pulumi g).resources.map (·.name) ++
            (if (Plan.ofGraph .pulumi g).resources.isEmpty then [] else ["ids"]) ∧
        (readLines Pulumi.declared? index.toList).Nodup := by
  constructor
  · intro a h
    unfold generate at h
    cases hdocuments : Target.documents .terraform (Plan.ofGraph .terraform g) with
    | error cause =>
      simp only [hdocuments] at h
      cases h
    | ok documents =>
      simp only [hdocuments] at h
      cases h
      exact ⟨_, _, Terraform.documents_of_ok hdocuments,
        (Terraform.reads_mainText g).readLines_ofList Terraform.skipsContinued_resource,
        (Terraform.reads_outputsText g).readLines_ofList Terraform.skipsContinued_output⟩
  · obtain ⟨project, hdocuments⟩ := Pulumi.documents_eq (Plan.ofGraph .pulumi g)
    have hread := (Pulumi.reads_indexText g).readLines_ofList Pulumi.skipsContinued_declared?
    have hgenerate : generate .pulumi g = .ok
        { Artifact.ofPlan .pulumi (Plan.ofGraph .pulumi g) with
          documents := [⟨"index.ts", .text (.ofList (Pulumi.indexText (Plan.ofGraph .pulumi g)))⟩,
            ⟨"Pulumi.yaml", .text project⟩] } := by
      unfold generate
      simp only [Target.documents, hdocuments]
    refine ⟨_, _, project, hgenerate, rfl, hread, ?_⟩
    rw [hread]
    exact Pulumi.nodup_declared g

/-- A label and a setting that hold lines with a keyword. -/
theorem declarations_exact_hostile :
    ∃ (g : Graph) (a : Artifact) (main outputs : String),
      g = {
        nodes := [
          (Node.ofType "n1" "aws-s3").withLabel "a\" \x7b\n\x7d\nresource \"aws_instance\" \"b",
          (Node.ofType "n2" "aws-ec2").withSetting "userData"
            (.object [("k\n", .str "\nresource \"aws_s3_bucket\" \"c\" \x7b")])]
        edges := [⟨"e", "n2", "n1"⟩] } ∧
      generate .terraform g = .ok a ∧
      a.documents = [⟨"main.tf", .text main⟩, ⟨"outputs.tf", .text outputs⟩] ∧
      readLines (lineFrom? "resource \"".toList) main.toList = [
        "resource \"aws_instance\" \"n2\" \x7b".toList,
        "resource \"aws_s3_bucket\" \"a______resource__aws_instance___b\" \x7b".toList] := by
  let g : Graph := {
    nodes := [
      (Node.ofType "n1" "aws-s3").withLabel "a\" \x7b\n\x7d\nresource \"aws_instance\" \"b",
      (Node.ofType "n2" "aws-ec2").withSetting "userData"
        (.object [("k\n", .str "\nresource \"aws_s3_bucket\" \"c\" \x7b")])]
    edges := [⟨"e", "n2", "n1"⟩] }
  have hok : (generate .terraform g).isOk = true := by decide +kernel
  obtain ⟨a, ha⟩ : ∃ a, generate .terraform g = .ok a := by
    cases hg : generate .terraform g with
    | error cause => rw [hg] at hok; cases hok
    | ok a => exact ⟨a, rfl⟩
  obtain ⟨main, outputs, hdocuments, hmain, -⟩ := (declarations_exact g).1 a ha
  refine ⟨g, a, main, outputs, rfl, ha, hdocuments, hmain.trans ?_⟩
  decide +kernel

end CloudGraph

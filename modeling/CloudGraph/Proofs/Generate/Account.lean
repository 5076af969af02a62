import CloudGraph.Proofs.Generate.Failure

/-!
# The account of a failed generation

An artifact lists the names of its resources and counts their dependencies. For a generation that
succeeds these are the resources that `resourceCount` counts.

**Theorem (`account_of_whole_plan`).** After a failure only the count stops at the resource at
fault. The names and the dependencies are still those of the whole plan, the resource at fault and
those after it included. So the names are never those of the resources counted, and the dependencies
are just if no resource from the one at fault on has any.

The account is made from the plan before its documents are (`accounts_ofPlan`), and a failure puts
another count into it and nothing else (`exists_account_of_error`).
-/

namespace CloudGraph

variable {target : Target} {g : Graph}

/-- The names and the dependencies of an artifact are those of some resources. -/
structure Artifact.Accounts (a : Artifact) (resources : List PlannedResource) : Prop where
  names : a.nameMap.entries.Perm (resources.map fun r => (r.name, r.node.id))
  dependencies : a.dependencyCount = total (fun r => r.dependsOn.length) resources

theorem Artifact.accounts_ofPlan (target : Target) (g : Graph) :
    (ofPlan target (Plan.ofGraph target g)).Accounts (Plan.ofGraph target g).resources where
  names := by
    show (Plan.ofGraph target g).nameMap.entries.Perm _
    rw [Plan.entries_nameMap]
    exact Plan.membersBy_perm Function.injective_id _
  dependencies := rfl

/-- A name that is accounted for is that of one of the resources. -/
theorem Artifact.Accounts.mem_keys_iff {a : Artifact} {resources : List PlannedResource}
    (h : a.Accounts resources) {name : String} :
    name ∈ a.nameMap.keys ↔ name ∈ resources.map (·.name) := by
  have hkeys : a.nameMap.keys.Perm (resources.map (·.name)) := by
    have hmap := h.names.map (·.1)
    rwa [List.map_map] at hmap
  exact hkeys.mem_iff

/-! ## Failures -/

theorem eq_terraform_of_generate_eq_error {f : GenerationFailure}
    (h : generate target g = .error f) : target = .terraform := by
  cases target with
  | terraform => rfl
  | pulumi =>
    obtain ⟨project, hdocuments⟩ := Pulumi.documents_eq (Plan.ofGraph .pulumi g)
    cases h.symm.trans (generate_eq_ok_iff.2 ⟨_, hdocuments, rfl⟩)
  | arm => cases h
  | cloudFormation => cases h

/-- A failure counts the resources before one at fault and leaves the account as it was. -/
theorem exists_account_of_error (h : (g.nodes.map (·.id)).Nodup) {f : GenerationFailure}
    (hf : generate target g = .error f) :
    ∃ before r after, (Plan.ofGraph target g).resources = before ++ r :: after ∧
      f.account = { Artifact.ofPlan target (Plan.ofGraph target g) with
        resourceCount := before.length } := by
  obtain rfl := eq_terraform_of_generate_eq_error hf
  rcases faultless_or_first_fault (Plan.ofGraph .terraform g) with hnone | hfirst
  · obtain ⟨a, ha⟩ := exists_generate_terraform hnone
    cases ha.symm.trans hf
  · obtain ⟨before, r, after, key, hresources, hbefore, hkey⟩ := hfirst
    rw [generate_terraform_eq_error h hresources hbefore hkey] at hf
    cases hf
    exact ⟨before, r, after, hresources, rfl⟩

/-- Nothing is missing from a total just if what was left out adds nothing. -/
theorem total_length_eq_left_iff {α β : Type} {f : α → List β} {xs ys : List α} :
    total (fun a => (f a).length) (xs ++ ys) = total (fun a => (f a).length) xs ↔
      ∀ y ∈ ys, f y = [] := by
  rw [total_append, Nat.add_eq_left]
  induction ys with
  | nil => simp
  | cons y ys ih => simp [ih]

/-- **Accounts.** In a graph with distinct node ids, let generation for a target end. If it
succeeds, the names and dependencies are those of the resources counted, which are all of the plan.
If it fails, they are those of all resources of the plan too, but the count stops before one of
them: the names of those not counted are listed, and the dependencies are those of the resources
counted just if the others have none. -/
theorem account_of_whole_plan (target : Target) (g : Graph) (h : (g.nodes.map (·.id)).Nodup) :
    let resources := (Plan.ofGraph target g).resources
    (∀ a, generate target g = .ok a →
      a.Accounts resources ∧ a.resourceCount = resources.length) ∧
    ∀ f, generate target g = .error f →
      let counted := resources.take f.account.resourceCount
      let others := resources.drop f.account.resourceCount
      f.account.Accounts resources ∧ counted.length = f.account.resourceCount ∧ others ≠ [] ∧
        (∀ r ∈ others, r.name ∈ f.account.nameMap.keys ∧ r.name ∉ counted.map (·.name)) ∧
        (f.account.dependencyCount = total (fun r => r.dependsOn.length) counted ↔
          ∀ r ∈ others, r.dependsOn = []) := by
  have haccounts := Artifact.accounts_ofPlan target g
  refine ⟨fun a ha => ?success, fun f hf => ?failure⟩
  case success =>
    obtain ⟨documents, rfl⟩ := exists_documents_of_generate ha
    exact ⟨⟨haccounts.names, haccounts.dependencies⟩, rfl⟩
  case failure =>
    obtain ⟨before, r, after, hresources, haccount⟩ := exists_account_of_error h hf
    have hall : f.account.Accounts (Plan.ofGraph target g).resources := by
      rw [haccount]
      exact ⟨haccounts.names, haccounts.dependencies⟩
    have hnames : ((before ++ r :: after).map (·.name)).Nodup := hresources ▸ Plan.nodup_names
    have hcount : f.account.resourceCount = before.length := by rw [haccount]
    have hcounted : (before ++ r :: after).take f.account.resourceCount = before :=
      List.take_left' hcount.symm
    have hothers : (before ++ r :: after).drop f.account.resourceCount = r :: after :=
      List.drop_left' hcount.symm
    rw [List.map_append] at hnames
    rw [hresources] at hall ⊢
    simp only [hcounted, hothers]
    refine ⟨hall, hcount.symm, List.cons_ne_nil r after, fun s hs => ⟨?_, fun hbefore => ?_⟩, ?_⟩
    · exact hall.mem_keys_iff.2 (List.mem_map_of_mem (List.mem_append_right before hs))
    · exact (List.nodup_append.1 hnames).2.2 _ hbefore _ (List.mem_map_of_mem hs) rfl
    · rw [hall.dependencies]
      exact total_length_eq_left_iff

/-- The node at fault stands between one that is counted and one that is not. -/
theorem account_of_whole_plan_middle :
    let g : Graph := {
      nodes := [
        (Node.ofType "app" "aws-ec2").withSetting "größe" .null,
        Node.ofType "db" "aws-rds",
        Node.ofType "log" "aws-s3"]
      edges := [⟨"e1", "db", "app"⟩] }
    (g.nodes.map (·.id)).Nodup ∧
      ∃ f, generate .terraform g = .error f ∧
        f.account.Accounts (Plan.ofGraph .terraform g).resources ∧
        (f.account.dependencyCount = total (fun r => r.dependsOn.length)
            ((Plan.ofGraph .terraform g).resources.take f.account.resourceCount) ↔
          ∀ r ∈ (Plan.ofGraph .terraform g).resources.drop f.account.resourceCount,
            r.dependsOn = []) := by
  intro g
  have hnodup : (g.nodes.map (·.id)).Nodup := by decide
  obtain ⟨f, hf⟩ : ∃ f, generate .terraform g = .error f :=
    (generate_terraform_fails_iff hnodup).2
      ⟨g.nodes[0], by simp [g], by decide +kernel, "größe", by decide +kernel, by decide +kernel⟩
  obtain ⟨haccounts, -, -, -, hdependencies⟩ := (account_of_whole_plan .terraform g hnodup).2 f hf
  exact ⟨hnodup, f, hf, haccounts, hdependencies⟩

/-- The account of a failure names the resource at fault, and counts its dependency. -/
theorem account_names_resource_at_fault :
    ∃ (g : Graph) (f : GenerationFailure),
      g = {
        nodes := [
          Node.ofType "ok" "aws-s3",
          (Node.ofType "bad" "aws-s3").withSetting "cost center" (.str "x")]
        edges := [⟨"e1", "ok", "bad"⟩] } ∧
      (g.nodes.map (·.id)).Nodup ∧ generate .terraform g = .error f ∧
      f.account.resourceCount = 1 ∧
      ((Plan.ofGraph .terraform g).resources.take 1).map (·.name) = ["ok"] ∧
      total (fun r => r.dependsOn.length) ((Plan.ofGraph .terraform g).resources.take 1) = 0 ∧
      f.account.nameMap.keys = ["bad", "ok"] ∧ f.account.dependencyCount = 1 := by
  let g : Graph := {
    nodes := [
      Node.ofType "ok" "aws-s3",
      (Node.ofType "bad" "aws-s3").withSetting "cost center" (.str "x")]
    edges := [⟨"e1", "ok", "bad"⟩] }
  have hnodup : (g.nodes.map (·.id)).Nodup := by decide
  obtain ⟨ok, bad, hresources, hok, hbad⟩ :
      ∃ ok bad, (Plan.ofGraph .terraform g).resources = [ok] ++ bad :: [] ∧
        Terraform.faultyKey? ok.node = none ∧
        Terraform.faultyKey? bad.node = some "cost center" := by
    refine ⟨_, _, rfl, ?_, ?_⟩ <;> decide +kernel
  have hf := generate_terraform_eq_error hnodup hresources (by simpa using hok) hbad
  have hnames : (Plan.ofGraph .terraform g).nameMap.keys = ["bad", "ok"] := by decide +kernel
  have hdependencies : (Plan.ofGraph .terraform g).dependencyCount = 1 := by decide +kernel
  refine ⟨g, _, rfl, hnodup, hf, rfl, ?_, ?_, hnames, hdependencies⟩ <;> decide +kernel

end CloudGraph

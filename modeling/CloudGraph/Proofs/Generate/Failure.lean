import CloudGraph.Proofs.Generate.Declarations.Pulumi
import CloudGraph.Proofs.Generate.Declarations.Terraform
import CloudGraph.Proofs.Generate.NameMap

/-!
# When generation fails

**Theorem (`generation_failure_exact`).** Only Terraform fails, and it does so just if a node with a
mapping has a setting whose key is no attribute name in snake case. The error names the first node
of the plan that has one. The account counts the resources before it, and has no documents.

* *Resources* (`resourceJson_eq_error`, `resourceJson_eq_ok`). The attributes of a resource are
  written by increasing keys, and the first key at fault ends this. The defaults of the mappings are
  never at fault (`namesAttribute_of_mem_defaults`), so it is a key of the node.
* *Plans* (`documents_eq_error`, `documents_eq_ok`). The resources are written in their order, and
  the first one that fails ends this. What is written fits the templates, so filling these in does
  not fail.
-/

namespace CloudGraph

variable {g : Graph} {r : PlannedResource}

/-! ## Keys of properties -/

/-- Texts that increase strictly are told by their members. -/
theorem eq_of_increasing {as bs : List String} (ha : as.Pairwise (· < ·)) (hb : bs.Pairwise (· < ·))
    (h : ∀ key, key ∈ as ↔ key ∈ bs) : as = bs := by
  have hnodup : ∀ {cs : List String}, cs.Pairwise (· < ·) → cs.Nodup := fun hc =>
    hc.imp fun hlt heq => absurd (heq ▸ hlt) (String.lt_irrefl _)
  refine ((List.perm_ext_iff_of_nodup (hnodup ha) (hnodup hb)).2 h).eq_of_pairwise
    (fun a b _ _ hab hba => ?_) ha hb
  exact absurd (String.lt_trans hab hba) (String.lt_irrefl a)

theorem SortedMap.pairwise_keys {α : Type} (m : SortedMap α) : m.keys.Pairwise (· < ·) :=
  List.pairwise_map.2 m.increasing

namespace PlannedResource

theorem entries_properties (r : PlannedResource) :
    r.properties.entries = insertAll r.node.configuration.entries
      (insertAll (r.mapping.defaults.map fun d => (d.1, d.2.toJson)) []) := by
  unfold properties
  rw [SortedMap.entries_foldl_insert, SortedMap.entries_ofList]

theorem mem_keys_properties (r : PlannedResource) {key : String} :
    key ∈ r.properties.keys ↔
      key ∈ r.node.configuration.keys ∨ key ∈ r.mapping.defaults.map (·.1) := by
  unfold SortedMap.keys
  rw [entries_properties, mem_keys_insertAll, mem_keys_insertAll, List.map_map]
  simp

/-- What no default satisfies is looked for among the keys of the node. -/
theorem find?_keys_properties (r : PlannedResource) {p : String → Bool}
    (h : ∀ d ∈ r.mapping.defaults, p d.1 = false) :
    r.properties.keys.find? p = r.node.configuration.keys.find? p := by
  have hkeys : r.properties.keys.filter p = r.node.configuration.keys.filter p := by
    refine eq_of_increasing (r.properties.pairwise_keys.filter p)
      (r.node.configuration.pairwise_keys.filter p) fun key => ?_
    rw [List.mem_filter, List.mem_filter, mem_keys_properties]
    refine and_congr_left fun hkey => or_iff_left fun hdefault => ?_
    obtain ⟨d, hd, rfl⟩ := List.mem_map.1 hdefault
    exact Bool.false_ne_true ((h d hd).symm.trans hkey)
  rw [← List.head?_filter, ← List.head?_filter, hkeys]

end PlannedResource

namespace Terraform

variable {p : Plan}

/-! ## Resources -/

/-- Whether the snake-case form of a key is an attribute name. -/
def namesAttribute (key : String) : Bool :=
  Hcl.isAttributeName (Text.snakeCase key).toList

/-- The first key of a node's settings that is at fault. -/
def faultyKey? (n : Node) : Option String :=
  n.configuration.keys.find? fun key => !namesAttribute key

theorem faultyKey?_eq_none_iff {n : Node} :
    faultyKey? n = none ↔
      ∀ key ∈ n.configuration.keys, namesAttribute key = true := by
  unfold faultyKey?
  rw [List.find?_eq_none]
  simp

theorem namesAttribute_of_mem_defaults :
    ∀ m ∈ Target.terraform.mappings, ∀ d ∈ m.2.defaults, namesAttribute d.1 = true := by
  -- A text is slow to take apart, so the characters are found by unification.
  have htable : ∀ m ∈ Target.terraform.mappings, ∀ d ∈ m.2.defaults,
      ∃ cs, d.1 = String.ofList cs ∧ Hcl.isAttributeName (Text.snakeFrom [] cs) = true := by
    simp only [Target.mappings, Mapping.terraform, Mapping.terraformAws, Mapping.terraformAzure,
      Mapping.terraformGcp, List.forall_mem_append, List.forall_mem_cons, List.not_mem_nil,
      false_imp_iff, implies_true, and_true, true_and]
    repeat' apply And.intro
    all_goals exact ⟨_, rfl, rfl⟩
  intro m hm d hd
  obtain ⟨cs, hcs, hname⟩ := htable m hm d hd
  unfold namesAttribute Text.snakeCase
  rwa [hcs, String.toList_ofList, String.toList_ofList]

theorem find?_keys_properties (h : r ∈ (Plan.ofGraph .terraform g).resources) :
    (r.properties.keys.find? fun key => !namesAttribute key) = faultyKey? r.node := by
  obtain ⟨entry, hentry, hmapping⟩ := Plan.exists_entry_of_mem_resources h
  refine r.find?_keys_properties fun d hd => ?_
  rw [namesAttribute_of_mem_defaults entry hentry d (hmapping ▸ hd)]
  rfl

theorem addAttribute_eq_error {lines : Attributes} {e : String × Json}
    (h : namesAttribute e.1 = false) :
    addAttribute r lines e = .error (.invalidAttribute r.node.id e.1) := by
  unfold namesAttribute at h
  simp [addAttribute, h]

theorem exists_addAttribute {e : String × Json} (h : namesAttribute e.1 = true)
    (lines : Attributes) : ∃ lines', addAttribute r lines e = .ok lines' := by
  unfold namesAttribute at h
  unfold addAttribute
  rw [if_neg (by simp [h])]
  split_ifs
  · exact ⟨_, rfl⟩
  · exact ⟨_, rfl⟩

theorem foldlM_addAttribute_eq_error {entries : List (String × Json)} {key : String}
    (h : (entries.map (·.1)).find? (fun key => !namesAttribute key) = some key)
    (lines : Attributes) :
    entries.foldlM (addAttribute r) lines = .error (.invalidAttribute r.node.id key) := by
  induction entries generalizing lines with
  | nil => cases h
  | cons e rest ih =>
    rw [List.foldlM_cons]
    rw [List.map_cons, List.find?_cons] at h
    cases hname : namesAttribute e.1 with
    | false =>
      rw [hname] at h
      cases h
      rw [addAttribute_eq_error hname]
      rfl
    | true =>
      rw [hname] at h
      obtain ⟨next, hnext⟩ := exists_addAttribute (r := r) hname lines
      rw [hnext]
      exact ih h next

theorem exists_foldlM_addAttribute {entries : List (String × Json)}
    (h : (entries.map (·.1)).find? (fun key => !namesAttribute key) = none)
    (lines : Attributes) : ∃ lines', entries.foldlM (addAttribute r) lines = .ok lines' := by
  induction entries generalizing lines with
  | nil => exact ⟨lines, rfl⟩
  | cons e rest ih =>
    rw [List.find?_eq_none, List.map_cons, List.forall_mem_cons] at h
    obtain ⟨next, hnext⟩ := exists_addAttribute (r := r) (by simpa using h.1) lines
    rw [List.foldlM_cons, hnext]
    exact ih (List.find?_eq_none.2 h.2) next

theorem resourceJson_eq_error (h : r ∈ (Plan.ofGraph .terraform g).resources) {key : String}
    (hkey : faultyKey? r.node = some key) :
    resourceJson p r = .error (.invalidAttribute r.node.id key) := by
  rw [← find?_keys_properties h] at hkey
  unfold resourceJson attributes
  rw [foldlM_addAttribute_eq_error hkey]
  rfl

theorem resourceJson_eq_ok (h : r ∈ (Plan.ofGraph .terraform g).resources)
    (hkey : faultyKey? r.node = none) : resourceJson p r = .ok (block p r) := by
  rw [← find?_keys_properties h] at hkey
  obtain ⟨lines, hlines⟩ := exists_foldlM_addAttribute (r := r) hkey .empty
  unfold resourceJson attributes block attributeLines attributes
  rw [hlines]
  rfl

/-! ## Plans -/

theorem mapM_eq_error {ε α β : Type} {f : α → Except ε β} {before after : List α} {a : α} {e : ε}
    (hbefore : ∀ b ∈ before, ∃ y, f b = .ok y) (ha : f a = .error e) :
    (before ++ a :: after).mapM f = .error e := by
  induction before with
  | nil =>
    rw [List.nil_append, List.mapM_cons, ha]
    rfl
  | cons b before ih =>
    obtain ⟨⟨y, hy⟩, hbefore⟩ := List.forall_mem_cons.1 hbefore
    rw [List.cons_append, List.mapM_cons, hy, ih hbefore]
    rfl

theorem mapM_eq_ok {ε α β : Type} {f : α → Except ε β} {f' : α → β} {xs : List α}
    (h : ∀ a ∈ xs, f a = .ok (f' a)) : xs.mapM f = .ok (xs.map f') := by
  induction xs with
  | nil => rfl
  | cons a xs ih =>
    obtain ⟨ha, hxs⟩ := List.forall_mem_cons.1 h
    rw [List.mapM_cons, ha, ih hxs]
    rfl

theorem documents_eq_error {before after : List PlannedResource} {key : String}
    (h : (Plan.ofGraph .terraform g).resources = before ++ r :: after)
    (hbefore : ∀ s ∈ before, faultyKey? s.node = none) (hkey : faultyKey? r.node = some key) :
    documents (Plan.ofGraph .terraform g) = .error (.invalidAttribute r.node.id key) := by
  have hmem : ∀ s ∈ before ++ r :: after, s ∈ (Plan.ofGraph .terraform g).resources := fun s hs =>
    h ▸ hs
  unfold documents
  rw [h, mapM_eq_error (fun s hs => ⟨_, resourceJson_eq_ok (hmem s (by simp [hs])) (hbefore s hs)⟩)
    (resourceJson_eq_error (hmem r (by simp)) hkey)]
  rfl

theorem documents_eq_ok
    (h : ∀ r ∈ (Plan.ofGraph .terraform g).resources, faultyKey? r.node = none) :
    documents (Plan.ofGraph .terraform g) =
      .ok [⟨"main.tf", .text (.ofList (mainText (Plan.ofGraph .terraform g)))⟩,
        ⟨"outputs.tf", .text (.ofList (outputsText (Plan.ofGraph .terraform g)))⟩] := by
  unfold documents
  rw [mapM_eq_ok fun r hr => resourceJson_eq_ok hr (h r hr)]
  show (mainTemplate.fill (data (Plan.ofGraph .terraform g)) >>= fun main =>
    outputsTemplate.fill (data (Plan.ofGraph .terraform g)) >>= fun outputs =>
      (.ok [⟨"main.tf", .text main⟩, ⟨"outputs.tf", .text outputs⟩] :
        Except DocumentError (List GeneratedDocument))) = _
  rw [Template.fill_of_renders (renders_mainTemplate _),
    Template.fill_of_renders (renders_outputsTemplate _)]
  rfl

end Terraform

/-! ## Generation -/

theorem findIdx?_eq_length {α : Type} {p : α → Bool} {before after : List α} {a : α}
    (hbefore : ∀ b ∈ before, p b = false) (ha : p a = true) :
    (before ++ a :: after).findIdx? p = some before.length := by
  induction before with
  | nil => simp [List.findIdx?_cons, ha]
  | cons b before ih =>
    obtain ⟨hb, hbefore⟩ := List.forall_mem_cons.1 hbefore
    simp [List.findIdx?_cons, hb, ih hbefore]

/-- The first node of a plan that has a key at fault ends the generation. -/
theorem generate_terraform_eq_error (h : (g.nodes.map (·.id)).Nodup)
    {before after : List PlannedResource} {key : String}
    (hresources : (Plan.ofGraph .terraform g).resources = before ++ r :: after)
    (hbefore : ∀ s ∈ before, Terraform.faultyKey? s.node = none)
    (hkey : Terraform.faultyKey? r.node = some key) :
    generate .terraform g = .error ⟨.terraform, .invalidAttribute r.node.id key,
      { Artifact.ofPlan .terraform (Plan.ofGraph .terraform g) with
        resourceCount := before.length }⟩ := by
  have hcount : (Plan.ofGraph .terraform g).resources.findIdx? (·.node.id == r.node.id) =
      some before.length := by
    have hids : ((Plan.ofGraph .terraform g).resources.map (·.node.id)).Nodup :=
      Plan.nodup_node_ids h
    rw [hresources, List.map_append, List.map_cons] at hids
    rw [hresources]
    refine findIdx?_eq_length (fun s hs => beq_false_of_ne fun heq => ?_) (beq_self_eq_true _)
    exact (List.nodup_append.1 hids).2.2 _ (List.mem_map_of_mem hs) _ List.mem_cons_self heq
  have hdocuments := Terraform.documents_eq_error hresources hbefore hkey
  unfold generate
  dsimp only [Target.documents]
  rw [hdocuments]
  dsimp only [Artifact.ofFailedPlan]
  rw [hcount]
  rfl

theorem exists_generate_terraform
    (h : ∀ r ∈ (Plan.ofGraph .terraform g).resources, Terraform.faultyKey? r.node = none) :
    ∃ a, generate .terraform g = .ok a :=
  ⟨_, generate_eq_ok_iff.2 ⟨_, Terraform.documents_eq_ok h, rfl⟩⟩

/-- Either no key of a plan is at fault, or there is a first resource that has one. -/
theorem faultless_or_first_fault (p : Plan) :
    (∀ r ∈ p.resources, Terraform.faultyKey? r.node = none) ∨
      ∃ before r after key, p.resources = before ++ r :: after ∧
        (∀ s ∈ before, Terraform.faultyKey? s.node = none) ∧
        Terraform.faultyKey? r.node = some key := by
  cases hfirst : p.resources.find? fun r => (Terraform.faultyKey? r.node).isSome with
  | none =>
    rw [List.find?_eq_none] at hfirst
    exact .inl fun r hr => by simpa using hfirst r hr
  | some r =>
    obtain ⟨hfault, before, after, hresources, hbefore⟩ := List.find?_eq_some_iff_append.1 hfirst
    obtain ⟨key, hkey⟩ := Option.isSome_iff_exists.1 hfault
    exact .inr ⟨before, r, after, key, hresources, fun s hs => by simpa using hbefore s hs, hkey⟩

theorem generate_terraform_fails_iff (h : (g.nodes.map (·.id)).Nodup) :
    (∃ f, generate .terraform g = .error f) ↔
      ∃ n ∈ g.nodes, (Target.terraform.mapping? n.componentType).isSome = true ∧
        ∃ key ∈ n.configuration.keys, Terraform.namesAttribute key = false := by
  rcases faultless_or_first_fault (Plan.ofGraph .terraform g) with hnone | hfirst
  · obtain ⟨a, ha⟩ := exists_generate_terraform hnone
    refine iff_of_false (fun ⟨f, hf⟩ => by cases ha.symm.trans hf) ?_
    rintro ⟨n, hn, hmapping, key, hkey, hfault⟩
    obtain ⟨r, hr, rfl⟩ := Plan.exists_resource_iff.2 ⟨hn, hmapping⟩
    have hgood := Terraform.faultyKey?_eq_none_iff.1 (hnone r hr) key hkey
    exact Bool.false_ne_true (hfault.symm.trans hgood)
  · obtain ⟨before, r, after, key, hresources, hbefore, hkey⟩ := hfirst
    have hr : r ∈ (Plan.ofGraph .terraform g).resources := by simp [hresources]
    obtain ⟨hn, hmapping⟩ := Plan.exists_resource_iff.1 ⟨r, hr, rfl⟩
    have hfault := List.find?_some hkey
    exact iff_of_true ⟨_, generate_terraform_eq_error h hresources hbefore hkey⟩
      ⟨r.node, hn, hmapping, key, List.mem_of_find?_eq_some hkey, by simpa using hfault⟩

/-- **Failures.** In a graph with distinct node ids, a generation for Terraform fails just if a node
with a mapping has a key that is no attribute name in snake case. No other generation fails. A
failure names the first node of the plan that has such a key, and the first of its keys. Its account
counts the resources before that node, all of which could be written, and has no documents. -/
theorem generation_failure_exact (g : Graph) (h : (g.nodes.map (·.id)).Nodup) :
    (∀ target, target ≠ .terraform → ∃ a, generate target g = .ok a) ∧
      ((∃ f, generate .terraform g = .error f) ↔
        ∃ n ∈ g.nodes, (Target.terraform.mapping? n.componentType).isSome = true ∧
          ∃ key ∈ n.configuration.keys,
            Hcl.isAttributeName (Text.snakeCase key).toList = false) ∧
      ∀ f, generate .terraform g = .error f →
        ∃ before r after key,
          (Plan.ofGraph .terraform g).resources = before ++ r :: after ∧
          (∀ s ∈ before, ∀ k ∈ s.node.configuration.keys,
            Hcl.isAttributeName (Text.snakeCase k).toList = true) ∧
          r.node.configuration.keys.find?
            (fun k => !Hcl.isAttributeName (Text.snakeCase k).toList) = some key ∧
          f.cause = .invalidAttribute r.node.id key ∧
          f.account.resourceCount = before.length ∧ f.account.documents = [] := by
  refine ⟨?others, generate_terraform_fails_iff h, ?first⟩
  case others =>
    intro target htarget
    cases target with
    | terraform => exact absurd rfl htarget
    | pulumi =>
      obtain ⟨project, hdocuments⟩ := Pulumi.documents_eq (Plan.ofGraph .pulumi g)
      exact ⟨_, generate_eq_ok_iff.2 ⟨_, hdocuments, rfl⟩⟩
    | arm => exact ⟨_, rfl⟩
    | cloudFormation => exact ⟨_, rfl⟩
  case first =>
    intro f hf
    rcases faultless_or_first_fault (Plan.ofGraph .terraform g) with hnone | hfirst
    · obtain ⟨a, ha⟩ := exists_generate_terraform hnone
      cases ha.symm.trans hf
    · obtain ⟨before, r, after, key, hresources, hbefore, hkey⟩ := hfirst
      rw [generate_terraform_eq_error h hresources hbefore hkey] at hf
      cases hf
      exact ⟨before, r, after, key, hresources, fun s hs =>
        Terraform.faultyKey?_eq_none_iff.1 (hbefore s hs), hkey, rfl, rfl, rfl⟩

/-- The node at fault is declared first, but the plan has another one before it. -/
theorem generation_failure_exact_reordered :
    let g : Graph := {
      nodes := [
        { Node.ofType "app" "aws-ec2" with
          configuration := .ofList [("größe", .null), ("Ami", .null)] },
        { Node.ofType "odd" "no-such-type" with configuration := .ofList [("", .null)] },
        { Node.ofType "db" "aws-rds" with configuration := .ofList [("multiAZ", .bool true)] }]
      edges := [⟨"e1", "db", "app"⟩] }
    (g.nodes.map (·.id)).Nodup ∧
      ∃ f, generate .terraform g = .error f ∧ ∃ before r after key,
        (Plan.ofGraph .terraform g).resources = before ++ r :: after ∧
        f.cause = .invalidAttribute r.node.id key ∧ f.account.resourceCount = before.length := by
  intro g
  have hnodup : (g.nodes.map (·.id)).Nodup := by decide
  obtain ⟨-, hfails, hfirst⟩ := generation_failure_exact g hnodup
  have hkey : "größe" ∈ g.nodes[0].configuration.keys := by decide +kernel
  have hfault : Hcl.isAttributeName (Text.snakeCase "größe").toList = false := by decide +kernel
  obtain ⟨f, hf⟩ := hfails.2 ⟨g.nodes[0], by simp [g], by decide +kernel, "größe", hkey, hfault⟩
  obtain ⟨before, r, after, key, hresources, -, -, hcause, hcount, -⟩ := hfirst f hf
  exact ⟨hnodup, f, hf, before, r, after, key, hresources, hcause, hcount⟩

end CloudGraph

import CloudGraph.Generate.Generation
import CloudGraph.Proofs.Generate.Plan.Names

/-!
# The name map of an artifact

An artifact comes with a map from the names of its resources to the ids of their nodes. From an id
to its name there is no map: the entries are searched for the id.

**Theorem (`name_map_bijective`).** In a graph with distinct node ids the two ways are inverse to
each other, between all the names and the ids of all nodes with a mapping.

A map cannot hold two entries with one key, so it is the names that could cost a node its entry.
They are pairwise distinct, however long the labels are that they were cut from, and so the map has
an entry for each resource (`Plan.mem_nameMap_iff`). The search finds one entry of an id at most,
because each node has one resource (`Plan.eq_of_node_id`).
-/

namespace CloudGraph

/-- A search for a value that only one key has. -/
theorem find?_value_eq_some_iff {entries : List (String × String)} {value key : String}
    (hunique : ∀ k k', (k, value) ∈ entries → (k', value) ∈ entries → k = k') :
    (entries.find? (·.2 == value)).map (·.1) = some key ↔ (key, value) ∈ entries := by
  have hsound : ∀ e, entries.find? (·.2 == value) = some e → (e.1, value) ∈ entries := by
    intro e he
    have hvalue := List.find?_some he
    rw [← eq_of_beq hvalue]
    exact List.mem_of_find?_eq_some he
  constructor
  · intro h
    obtain ⟨e, he, rfl⟩ := Option.map_eq_some_iff.1 h
    exact hsound e he
  · intro h
    have hfound : (entries.find? (·.2 == value)).isSome = true :=
      List.find?_isSome.2 ⟨(key, value), h, beq_self_eq_true value⟩
    obtain ⟨e, he⟩ := Option.isSome_iff_exists.1 hfound
    rw [he, Option.map_some, hunique e.1 key (hsound e he) h]

namespace Plan

variable {target : Target} {g : Graph} {r s : PlannedResource} {name id : String}

/-! ## Names to ids -/

theorem mem_nameMap_iff :
    (name, id) ∈ (ofGraph target g).nameMap.entries ↔
      ∃ r ∈ (ofGraph target g).resources, r.name = name ∧ r.node.id = id := by
  rw [entries_nameMap, (membersBy_perm Function.injective_id _).mem_iff, List.mem_map]
  simp [Prod.ext_iff]

theorem size_nameMap : (ofGraph target g).nameMap.size = (ofGraph target g).resources.length := by
  unfold SortedMap.size
  rw [entries_nameMap, (membersBy_perm Function.injective_id _).length_eq, List.length_map]

theorem get?_nameMap_eq_some_iff :
    (ofGraph target g).nameMap.get? name = some id ↔
      (name, id) ∈ (ofGraph target g).nameMap.entries :=
  lookup_eq_some_iff (ofGraph target g).nameMap.increasing.nodup

/-! ## Ids to names -/

/-- The resources are those of the nodes with a mapping. -/
theorem nodes_perm :
    ((ofGraph target g).resources.map (·.node)).Perm
      (g.nodes.filter fun n => (target.mapping? n.componentType).isSome) := by
  rw [← nodes_declared]
  exact resources_perm_declared.map _

theorem exists_resource_iff {n : Node} :
    (∃ r ∈ (ofGraph target g).resources, r.node = n) ↔
      n ∈ g.nodes ∧ (target.mapping? n.componentType).isSome = true := by
  have hnodes : n ∈ (ofGraph target g).resources.map (·.node) ↔
      n ∈ g.nodes.filter fun n => (target.mapping? n.componentType).isSome :=
    nodes_perm.mem_iff
  rwa [List.mem_map, List.mem_filter] at hnodes

theorem nodup_node_ids (h : (g.nodes.map (·.id)).Nodup) :
    ((ofGraph target g).resources.map (·.node.id)).Nodup := by
  rw [(resources_perm_declared.map _).nodup_iff, map_id_declared]
  exact nodup_mappedIds h

/-- Each node has one resource. -/
theorem eq_of_node_id (h : (g.nodes.map (·.id)).Nodup) (hr : r ∈ (ofGraph target g).resources)
    (hs : s ∈ (ofGraph target g).resources) (hid : r.node.id = s.node.id) : r = s :=
  List.inj_on_of_nodup_map (nodup_node_ids h) hr hs hid

theorem find?_nameMap_eq_some_iff (h : (g.nodes.map (·.id)).Nodup) :
    ((ofGraph target g).nameMap.entries.find? (·.2 == id)).map (·.1) = some name ↔
      ∃ r ∈ (ofGraph target g).resources, r.name = name ∧ r.node.id = id := by
  rw [← mem_nameMap_iff]
  refine find?_value_eq_some_iff fun k k' hk hk' => ?_
  obtain ⟨r, hr, rfl, hrid⟩ := mem_nameMap_iff.1 hk
  obtain ⟨s, hs, rfl, hsid⟩ := mem_nameMap_iff.1 hk'
  rw [eq_of_node_id h hr hs (hrid.trans hsid.symm)]

theorem length_resources_add_length_skipped (target : Target) (g : Graph) :
    (ofGraph target g).resources.length + (ofGraph target g).skipped.length = g.nodes.length := by
  have hresources : (ofGraph target g).resources.length =
      (g.nodes.filter fun n => (target.mapping? n.componentType).isSome).length := by
    rw [← nodes_perm.length_eq, List.length_map]
  have hskipped : (ofGraph target g).skipped.length =
      (g.nodes.filter fun n => (target.mapping? n.componentType).isNone).length :=
    List.length_map _
  have hall := List.length_eq_length_filter_add (l := g.nodes) fun n =>
    (target.mapping? n.componentType).isSome
  simp only [Option.not_isSome] at hall
  rw [hresources, hskipped, hall]

end Plan

/-! ## Artifacts -/

/-- What is generated is the account of the plan, with its documents. -/
theorem generate_eq_ok_iff {target : Target} {g : Graph} {a : Artifact} :
    generate target g = .ok a ↔
      ∃ documents, target.documents (Plan.ofGraph target g) = .ok documents ∧
        a = { Artifact.ofPlan target (Plan.ofGraph target g) with documents } := by
  dsimp only [generate]
  cases target.documents (Plan.ofGraph target g) with
  | error cause => simp
  | ok documents => simp [eq_comm]

theorem exists_documents_of_generate {target : Target} {g : Graph} {a : Artifact}
    (h : generate target g = .ok a) :
    ∃ documents, a = { Artifact.ofPlan target (Plan.ofGraph target g) with documents } := by
  obtain ⟨documents, -, rfl⟩ := generate_eq_ok_iff.1 h
  exact ⟨documents, rfl⟩

/-- **Names and nodes.** In a graph with distinct node ids, let generation for a target succeed. The
name map has an entry for each resource. An id has a name just if it is that of a node with a
mapping, and this name leads back to the id, in the name map, and to the node, by way of the plan.
The resources and the skipped nodes are as many as all nodes. -/
theorem name_map_bijective {target : Target} {g : Graph} {a : Artifact}
    (hids : (g.nodes.map (·.id)).Nodup) (h : generate target g = .ok a) :
    a.nameMap.size = a.resourceCount ∧
      (∀ id, (a.nameFor? id).isSome ↔
        ∃ n ∈ g.nodes, n.id = id ∧ (target.mapping? n.componentType).isSome) ∧
      (∀ id name, a.nameFor? id = some name ↔ a.nameMap.get? name = some id) ∧
      (∀ n ∈ g.nodes, ∀ name, a.nameFor? n.id = some name →
        ((Plan.ofGraph target g).resource? name).map (·.node) = some n) ∧
      a.resourceCount + a.skippedCount = g.nodes.length := by
  obtain ⟨documents, rfl⟩ := exists_documents_of_generate h
  have hnameFor : ∀ id name,
      Option.map (·.1) ((Plan.ofGraph target g).nameMap.entries.find? (·.2 == id)) = some name ↔
        ∃ r ∈ (Plan.ofGraph target g).resources, r.name = name ∧ r.node.id = id :=
    fun _ _ => Plan.find?_nameMap_eq_some_iff hids
  refine ⟨Plan.size_nameMap, ?names, ?inverse, ?resources,
    Plan.length_resources_add_length_skipped target g⟩
  case names =>
    intro id
    refine Option.isSome_iff_exists.trans ⟨?_, ?_⟩
    · rintro ⟨name, hname⟩
      obtain ⟨r, hr, -, hid⟩ := (hnameFor id name).1 hname
      obtain ⟨hmem, hmapping⟩ := Plan.exists_resource_iff.1 ⟨r, hr, rfl⟩
      exact ⟨r.node, hmem, hid, hmapping⟩
    · rintro ⟨n, hn, hid, hmapping⟩
      obtain ⟨r, hr, rfl⟩ := Plan.exists_resource_iff.2 ⟨hn, hmapping⟩
      exact ⟨r.name, (hnameFor id r.name).2 ⟨r, hr, rfl, hid⟩⟩
  case inverse =>
    intro id name
    exact (hnameFor id name).trans (Plan.mem_nameMap_iff.symm.trans
      Plan.get?_nameMap_eq_some_iff.symm)
  case resources =>
    intro n hn name hname
    obtain ⟨r, hr, hrname, hid⟩ := (hnameFor n.id name).1 hname
    obtain ⟨hmem, -⟩ := Plan.exists_resource_iff.1 ⟨r, hr, rfl⟩
    have hnode : r.node = n := List.inj_on_of_nodup_map hids hmem hn hid
    rw [Plan.resource?_eq_some_iff.2 ⟨hr, hrname⟩, Option.map_some, hnode]

/-- Two labels that agree as far as a name can hold them, and a node that is skipped. -/
theorem name_map_bijective_long_labels :
    ∃ (g : Graph) (a : Artifact),
      g = {
        nodes := [
          (Node.ofType "us" "azure-vm").withLabel "orders-service-primary-east",
          Node.ofType "odd" "no-such-type",
          (Node.ofType "eu" "azure-vm").withLabel "orders-service-primary-eu"] } ∧
      (g.nodes.map (·.id)).Nodup ∧
      generate .arm g = .ok a ∧
      a.nameMap.entries =
        [("orders_service_primary_2", "eu"), ("orders_service_primary_e", "us")] ∧
      a.nameMap.size = a.resourceCount ∧
      a.nameFor? "eu" = some "orders_service_primary_2" := by
  let g : Graph := {
    nodes := [
      (Node.ofType "us" "azure-vm").withLabel "orders-service-primary-east",
      Node.ofType "odd" "no-such-type",
      (Node.ofType "eu" "azure-vm").withLabel "orders-service-primary-eu"] }
  have hids : (g.nodes.map (·.id)).Nodup := by decide +kernel
  have hgenerate : generate .arm g = .ok { Artifact.ofPlan .arm (Plan.ofGraph .arm g) with
      documents := Arm.documents (Plan.ofGraph .arm g) } := rfl
  have hentries : (Plan.ofGraph .arm g).nameMap.entries =
      [("orders_service_primary_2", "eu"), ("orders_service_primary_e", "us")] := by
    decide +kernel
  obtain ⟨hsize, -, hinverse, -, -⟩ := name_map_bijective hids hgenerate
  refine ⟨g, _, rfl, hids, hgenerate, hentries, hsize, (hinverse _ _).2 ?_⟩
  show lookup "orders_service_primary_2" (Plan.ofGraph .arm g).nameMap.entries = some "eu"
  rw [hentries]
  decide +kernel

end CloudGraph

import CloudGraph.Proofs.Generate.Dependencies.Order
import CloudGraph.Proofs.Generate.Identifier.Allocation
import CloudGraph.Proofs.Generate.Plan.Wiring

/-!
# The resources of a plan

A plan holds one resource for each node with a mapping, in an order of its own. The proofs
compare it with `declared`, the same resources in declaration order, where the resource of a
node stands at the index that the dependency table has for it.

* **Nothing lost** (`resources_perm_declared`). The table has no cycle, so its order is a
  permutation of the indices, and the resources are one of `declared`.
* **Nothing early** (`earlier_of_mem_dependsOn`). The names of `declared` are pairwise distinct.
  A name that a resource depends on is therefore that of the index an arrow leads to, and the
  order places that index first.
-/

namespace CloudGraph.Plan

open DependencyTable

variable {target : Target} {g : Graph}

/-! ## Resources in declaration order -/

/-- The ids of the nodes with a mapping. -/
def mappedIds (target : Target) (g : Graph) : List String :=
  (mapped target g.nodes).map (·.1.id)

/-- The names of their resources. -/
def mappedNames (target : Target) (g : Graph) : List String :=
  ((allocator target).allocateAll ((mapped target g.nodes).map fun m => rawName m.1)).1

/-- The dependencies between their indices. -/
def dependencies (target : Target) (g : Graph) : DependencyTable :=
  (wire (mappedIds target g) g.edges).1

/-- Their resources, in declaration order. -/
def declared (target : Target) (g : Graph) : List PlannedResource :=
  ((mapped target g.nodes).zip (mappedNames target g)).mapIdx fun i m =>
    { name := m.2
      node := m.1.1
      mapping := m.1.2
      dependsOn := ((dependencies target g).row i).filterMap ((mappedNames target g)[·]?) }

theorem resourceAt?_eq (i : Nat) :
    resourceAt? (mapped target g.nodes) (mappedNames target g) (dependencies target g) i =
      (declared target g)[i]? := by
  unfold resourceAt? declared
  rw [List.getElem?_mapIdx, List.zip, List.getElem?_zipWith]
  cases (mapped target g.nodes)[i]? with
  | none => rfl
  | some m => cases (mappedNames target g)[i]? <;> rfl

theorem resources_eq :
    (ofGraph target g).resources =
      (dependencies target g).order.filterMap ((declared target g)[·]?) := by
  show List.filterMap (resourceAt? _ _ _) _ = _
  exact List.filterMap_congr fun i _ => resourceAt?_eq i

theorem length_mappedNames : (mappedNames target g).length = (mapped target g.nodes).length := by
  unfold mappedNames
  rw [NameAllocator.length_allocateAll, List.length_map]

theorem map_declared {α : Type} (f : PlannedResource → α)
    (f' : (Node × ResourceMapping) × String → α)
    (h : ∀ m dependsOn, f ⟨m.2, m.1.1, m.1.2, dependsOn⟩ = f' m) :
    (declared target g).map f = ((mapped target g.nodes).zip (mappedNames target g)).map f' := by
  refine List.ext_getElem? fun i => ?_
  unfold declared
  rw [List.getElem?_map, List.getElem?_mapIdx, List.getElem?_map, Option.map_map]
  exact congrArg (Option.map · _) (funext fun m => h m _)

theorem map_node_declared :
    (declared target g).map (fun r => (r.node, r.mapping)) = mapped target g.nodes := by
  rw [map_declared _ (·.1) fun _ _ => rfl]
  exact List.map_fst_zip length_mappedNames.ge

theorem map_name_declared : (declared target g).map (·.name) = mappedNames target g := by
  rw [map_declared _ (·.2) fun _ _ => rfl]
  exact List.map_snd_zip length_mappedNames.le

theorem map_id_declared : (declared target g).map (·.node.id) = mappedIds target g := by
  unfold mappedIds
  rw [← map_node_declared, List.map_map]
  rfl

theorem nodup_name_declared : ((declared target g).map (·.name)).Nodup := by
  rw [map_name_declared]
  exact NameAllocator.nodup_allocateAll _ _

/-- The resource at an index depends on those that the arrows from the index lead to. -/
theorem mem_dependsOn_iff {i : Nat} {r : PlannedResource} (h : (declared target g)[i]? = some r)
    {name : String} :
    name ∈ r.dependsOn ↔
      ∃ j s, (dependencies target g).Arrow i j ∧ (declared target g)[j]? = some s ∧
        s.name = name := by
  have hdepends : r.dependsOn =
      ((dependencies target g).row i).filterMap ((mappedNames target g)[·]?) := by
    unfold declared at h
    rw [List.getElem?_mapIdx] at h
    obtain ⟨m, -, rfl⟩ := Option.map_eq_some_iff.1 h
    rfl
  rw [hdepends, List.mem_filterMap]
  refine exists_congr fun j => ?_
  rw [← map_name_declared, List.getElem?_map, Option.map_eq_some_iff, exists_and_left]
  rfl

/-! ## The order -/

theorem size_dependencies : (dependencies target g).size = (declared target g).length := by
  have hids : ((declared target g).map (·.node.id)).length = (mappedIds target g).length :=
    congrArg List.length map_id_declared
  rw [← List.length_map, hids]
  exact (wired_wire _ _).size

theorem order_dependencies_perm :
    (dependencies target g).order.Perm (List.range (declared target g).length) := by
  have hwired := wired_wire (mappedIds target g) g.edges
  rw [← size_dependencies]
  exact order_perm hwired.closed hwired.acyclic

theorem filterMap_getElem?_range {α : Type} (l : List α) :
    (List.range l.length).filterMap (l[·]?) = l := by
  induction l with
  | nil => rfl
  | cons a l ih =>
    have hfirst : (a :: l)[0]? = some a := rfl
    rw [List.length_cons, List.range_succ_eq_map, List.filterMap_cons_some hfirst,
      List.filterMap_map]
    exact congrArg (a :: ·) ih

theorem getElem?_filterMap {α β : Type} {f : α → Option β} {l : List α}
    (h : ∀ a ∈ l, (f a).isSome) (k : Nat) : (l.filterMap f)[k]? = l[k]?.bind f := by
  induction l generalizing k with
  | nil => rfl
  | cons a l ih =>
    obtain ⟨b, hb⟩ := Option.isSome_iff_exists.1 (h a (List.mem_cons_self ..))
    rw [List.filterMap_cons_some hb]
    cases k with
    | zero => exact hb.symm
    | succ k => exact ih (fun a ha => h a (List.mem_cons_of_mem _ ha)) k

theorem resources_perm_declared : (ofGraph target g).resources.Perm (declared target g) := by
  rw [resources_eq]
  exact (order_dependencies_perm.filterMap _).trans (.of_eq (filterMap_getElem?_range _))

theorem getElem?_resources (k : Nat) :
    (ofGraph target g).resources[k]? =
      (dependencies target g).order[k]?.bind ((declared target g)[·]?) := by
  rw [resources_eq]
  refine getElem?_filterMap (fun i hi => ?_) k
  have hi := List.mem_range.1 (order_dependencies_perm.mem_iff.1 hi)
  rw [List.getElem?_eq_getElem hi]
  rfl

theorem earlier_of_mem_dependsOn {k : Nat} {r : PlannedResource}
    (h : (ofGraph target g).resources[k]? = some r) {name : String} (hname : name ∈ r.dependsOn) :
    ∃ j < k, ∃ s, (ofGraph target g).resources[j]? = some s ∧ s.name = name := by
  rw [getElem?_resources] at h
  obtain ⟨i, hi, hr⟩ := Option.bind_eq_some_iff.1 h
  obtain ⟨l, s, harrow, hs, hsname⟩ := (mem_dependsOn_iff hr).1 hname
  obtain ⟨hk, hik⟩ := List.getElem?_eq_some_iff.1 hi
  have horder : (dependencies target g).order =
      (dependencies target g).order.take k ++ i :: (dependencies target g).order.drop (k + 1) := by
    rw [← hik, ← List.drop_eq_getElem_cons hk, List.take_append_drop]
  obtain ⟨j, hj, hjl⟩ := List.getElem_of_mem (before_of_arrow horder harrow)
  rw [List.length_take] at hj
  rw [List.getElem_take] at hjl
  refine ⟨j, by omega, s, ?_, hsname⟩
  rw [getElem?_resources, List.getElem?_eq_getElem (by omega), hjl]
  exact hs

/-! ## The nodes -/

theorem map_fst_mapped (target : Target) (nodes : List Node) :
    (mapped target nodes).map (·.1) =
      nodes.filter fun n => (target.mapping? n.componentType).isSome := by
  induction nodes with
  | nil => rfl
  | cons n nodes ih =>
    unfold mapped at ih ⊢
    cases h : target.mapping? n.componentType <;> simp [h, ih]

theorem nodes_declared :
    (declared target g).map (·.node) =
      g.nodes.filter fun n => (target.mapping? n.componentType).isSome := by
  rw [← map_fst_mapped, ← map_node_declared, List.map_map]
  rfl

theorem mapping?_of_mem_mapped {m : Node × ResourceMapping} {nodes : List Node}
    (h : m ∈ mapped target nodes) : target.mapping? m.1.componentType = some m.2 := by
  obtain ⟨n, -, hn⟩ := List.mem_filterMap.1 h
  obtain ⟨mapping, hmapping, rfl⟩ := Option.map_eq_some_iff.1 hn
  exact hmapping

theorem nodup_mappedIds (h : (g.nodes.map (·.id)).Nodup) : (mappedIds target g).Nodup := by
  have hids : mappedIds target g = ((mapped target g.nodes).map (·.1)).map (·.id) := by
    rw [List.map_map]
    rfl
  rw [hids, map_fst_mapped]
  exact h.sublist (List.filter_sublist.map _)

/-- **Completeness and order.** In a graph with distinct node ids, the resources are those of
the nodes with a mapping, one each, and the skipped nodes are the others, one each in declaration
order. The names of the resources are pairwise distinct, and each name that a resource depends
on belongs to an earlier one. -/
theorem resources_complete_ordered (target : Target) (g : Graph)
    (h : (g.nodes.map (·.id)).Nodup) :
    let p := ofGraph target g
    (p.resources.map (·.node)).Perm
        (g.nodes.filter fun n => (target.mapping? n.componentType).isSome) ∧
      (p.resources.map (·.node.id)).Nodup ∧
      (∀ r ∈ p.resources, target.mapping? r.node.componentType = some r.mapping) ∧
      p.skipped.map (fun s => (s.nodeId, s.componentType)) =
        (g.nodes.filter fun n => (target.mapping? n.componentType).isNone).map
          (fun n => (n.id, n.componentType)) ∧
      (p.skipped.map (·.nodeId)).Nodup ∧
      (p.resources.map (·.name)).Nodup ∧
      ∀ (k : Nat) (r : PlannedResource), p.resources[k]? = some r → ∀ name ∈ r.dependsOn,
        ∃ j < k, ∃ s : PlannedResource, p.resources[j]? = some s ∧ s.name = name := by
  intro p
  have hperm : p.resources.Perm (declared target g) := resources_perm_declared
  have hnodes : (declared target g).map (·.node) =
      g.nodes.filter fun n => (target.mapping? n.componentType).isSome := by
    rw [← map_fst_mapped, ← map_node_declared, List.map_map]
    rfl
  have hskipped : p.skipped.map (·.nodeId) =
      (g.nodes.filter fun n => (target.mapping? n.componentType).isNone).map (·.id) :=
    List.map_map
  refine ⟨hnodes ▸ hperm.map _, ?_, fun r hr => ?_, List.map_map, ?_, ?_, ?_⟩
  · rw [(hperm.map _).nodup_iff, map_id_declared]
    exact nodup_mappedIds h
  · have hmem : (r.node, r.mapping) ∈ mapped target g.nodes := by
      rw [← map_node_declared]
      exact List.mem_map_of_mem (hperm.mem_iff.1 hr)
    exact mapping?_of_mem_mapped hmem
  · rw [hskipped]
    exact h.sublist (List.filter_sublist.map _)
  · rw [(hperm.map _).nodup_iff]
    exact nodup_name_declared
  · exact fun k r hr name hname => earlier_of_mem_dependsOn hr hname

theorem resources_complete_ordered_cycle :
    ∃ g : Graph,
      g = {
        nodes := [
          (Node.ofType "app" "aws-ec2").withLabel "Data",
          Node.ofType "odd" "no-such-type",
          (Node.ofType "db" "aws-rds").withLabel "data"]
        edges := [⟨"e1", "db", "app"⟩, ⟨"e2", "app", "db"⟩, ⟨"e3", "app", "app"⟩,
          ⟨"e4", "ghost", "db"⟩] } ∧
      (g.nodes.map (·.id)).Nodup ∧
      (ofGraph .terraform g).resources.map (fun r => (r.node.id, r.name, r.dependsOn)) =
        [("db", "data_2", []), ("app", "data", ["data_2"])] ∧
      ((ofGraph .terraform g).resources.map (·.node.id)).Nodup :=
  ⟨_, rfl, by decide +kernel, by decide +kernel,
    (resources_complete_ordered .terraform _ (by decide +kernel)).2.1⟩

end CloudGraph.Plan

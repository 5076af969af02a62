import CloudGraph.Proofs.Generate.Plan.Resources

/-!
# The order of the resources

**Theorem (`resources_least`).** The resources of a plan are those of the nodes with a mapping. Take
all orders of them in which each comes after those it depends on, and write each as the list of the
places that its nodes have among the declared ones. Then the plan has the least of these lists. If
each resource depends on resources declared before it, the plan has the order of the declarations.

The dependency table knows resources by their places, and its order is the least of the lists of
places that respect its arrows (`DependencyTable.isLeast_order`). As names and ids are distinct, a
resource is told by its place (`place_of_declared`), and an order of resources respects the
dependencies by name just if its places respect the arrows (`inOrder_map_place`).
-/

namespace CloudGraph.Plan

open DependencyTable

variable {target : Target} {g : Graph} {i j : Nat} {r s : PlannedResource}
  {rs : List PlannedResource}

/-- The place of a resource among the declared nodes that have one. -/
def place (target : Target) (g : Graph) (r : PlannedResource) : Nat :=
  (mappedIds target g).idxOf r.node.id

/-- Each resource comes after all that it depends on. -/
def InDependencyOrder (rs : List PlannedResource) : Prop :=
  ∀ before r after, rs = before ++ r :: after →
    ∀ name ∈ r.dependsOn, ∃ s ∈ before, s.name = name

/-! ## Places -/

theorem place_of_declared (h : (g.nodes.map (·.id)).Nodup)
    (hr : (declared target g)[i]? = some r) : place target g r = i := by
  have hid : (mappedIds target g)[i]? = some r.node.id := by
    rw [← map_id_declared, List.getElem?_map, hr]
    rfl
  obtain ⟨hi, hget⟩ := List.getElem?_eq_some_iff.1 hid
  unfold place
  rw [← hget]
  exact (nodup_mappedIds h).idxOf_getElem i hi

theorem declared_of_mem (h : (g.nodes.map (·.id)).Nodup)
    (hr : r ∈ (ofGraph target g).resources) :
    (declared target g)[place target g r]? = some r := by
  obtain ⟨i, hi⟩ := List.mem_iff_getElem?.1 (resources_perm_declared.mem_iff.1 hr)
  rwa [place_of_declared h hi]

theorem mem_resources_of_declared (hr : (declared target g)[i]? = some r) :
    r ∈ (ofGraph target g).resources :=
  resources_perm_declared.mem_iff.2 (List.mem_of_getElem? hr)

/-- An arrow joins the places of two resources, of which the first depends on the second. -/
theorem exists_of_arrow (harrow : (dependencies target g).Arrow i j) :
    ∃ r s, (declared target g)[i]? = some r ∧ (declared target g)[j]? = some s ∧
      s.name ∈ r.dependsOn := by
  have hclosed := (wired_wire (mappedIds target g) g.edges).closed
  have hi : i < (declared target g).length := size_dependencies ▸ harrow.lt_size
  have hj : j < (declared target g).length := size_dependencies ▸ hclosed i j harrow
  have hr := List.getElem?_eq_getElem hi
  have hs := List.getElem?_eq_getElem hj
  exact ⟨_, _, hr, hs, (mem_dependsOn_iff hr).2 ⟨j, _, harrow, hs, rfl⟩⟩

theorem map_place_resources (h : (g.nodes.map (·.id)).Nodup) :
    (ofGraph target g).resources.map (place target g) = (dependencies target g).order := by
  have hplaces : ∀ i ∈ (dependencies target g).order,
      ((declared target g)[i]?).map (place target g) = some i := by
    intro i hi
    have hlt := List.mem_range.1 (order_dependencies_perm.mem_iff.1 hi)
    have hr := List.getElem?_eq_getElem hlt
    rw [hr, Option.map_some, place_of_declared h hr]
  rw [resources_eq, List.map_filterMap, List.filterMap_congr hplaces, List.filterMap_some]

/-! ## Orders -/

theorem inDependencyOrder_resources (target : Target) (g : Graph) :
    InDependencyOrder (ofGraph target g).resources := by
  intro before r after hresources name hname
  have hr : (ofGraph target g).resources[before.length]? = some r := by
    rw [hresources]
    simp
  obtain ⟨j, hj, s, hs, hsname⟩ := earlier_of_mem_dependsOn hr hname
  rw [hresources, List.getElem?_append_left hj] at hs
  exact ⟨s, List.mem_of_getElem? hs, hsname⟩

/-- The places of resources in an order that respects the names respect the arrows. -/
theorem inOrder_map_place (h : (g.nodes.map (·.id)).Nodup)
    (hperm : rs.Perm (ofGraph target g).resources) (hrs : InDependencyOrder rs) :
    (dependencies target g).InOrder [] (rs.map (place target g)) := by
  refine inOrder_of_forall fun before i after hsplit j harrow => .inr ?_
  obtain ⟨rsBefore, rest, rfl, rfl, hrest⟩ := List.map_eq_append_iff.1 hsplit
  obtain ⟨r, rsAfter, rfl, rfl, -⟩ := List.map_eq_cons_iff.1 hrest
  obtain ⟨r', s, hr', hs, hname⟩ := exists_of_arrow harrow
  -- the resource of this place is the one that stands here in the list
  have hr : (declared target g)[place target g r]? = some r :=
    declared_of_mem h (hperm.mem_iff.1 (by simp))
  obtain rfl : r = r' := Option.some.inj (hr.symm.trans hr')
  obtain ⟨s', hs', hsname⟩ := hrs rsBefore r rsAfter rfl s.name hname
  have hs'mem : s' ∈ declared target g :=
    resources_perm_declared.mem_iff.1 (hperm.mem_iff.1 (by simp [hs']))
  obtain rfl : s' = s :=
    List.inj_on_of_nodup_map nodup_name_declared hs'mem (List.mem_of_getElem? hs) hsname
  exact List.mem_map.2 ⟨s', hs', place_of_declared h hs⟩

theorem resources_eq_declared (h : (g.nodes.map (·.id)).Nodup)
    (hbackwards : ∀ r ∈ (ofGraph target g).resources, ∀ s ∈ (ofGraph target g).resources,
      s.name ∈ r.dependsOn → place target g s < place target g r) :
    (ofGraph target g).resources = declared target g := by
  have harrows : ∀ i j, (dependencies target g).Arrow i j → j < i := by
    intro i j harrow
    obtain ⟨r, s, hr, hs, hname⟩ := exists_of_arrow harrow
    have hlt := hbackwards r (mem_resources_of_declared hr) s (mem_resources_of_declared hs) hname
    rwa [place_of_declared h hr, place_of_declared h hs] at hlt
  rw [resources_eq, order_eq_range harrows, size_dependencies, filterMap_getElem?_range]

/-- **Least order.** In a graph with distinct node ids, the resources of a plan are those of the
nodes with a mapping, each after those it depends on. Of all orders of the resources with this
property, the plan has the one whose places are lexicographically least. It is the order of the
declarations if each resource depends only on resources declared before it. -/
theorem resources_least (target : Target) (g : Graph) (h : (g.nodes.map (·.id)).Nodup) :
    let p := ofGraph target g
    let nodes := g.nodes.filter fun n => (target.mapping? n.componentType).isSome
    (p.resources.map (·.node)).Perm nodes ∧
      IsLeast {places : List Nat | ∃ rs, rs.Perm p.resources ∧ InDependencyOrder rs ∧
        rs.map (place target g) = places} (p.resources.map (place target g)) ∧
      ((∀ r ∈ p.resources, ∀ s ∈ p.resources, s.name ∈ r.dependsOn →
        place target g s < place target g r) → p.resources.map (·.node) = nodes) := by
  intro p nodes
  have hwired := wired_wire (mappedIds target g) g.edges
  have hleast := isLeast_order hwired.closed hwired.acyclic
  have hnodes : (declared target g).map (·.node) = nodes := nodes_declared
  refine ⟨?nodes, ⟨⟨p.resources, .refl _, inDependencyOrder_resources target g, rfl⟩, ?least⟩,
    ?declared⟩
  case nodes =>
    exact hnodes ▸ resources_perm_declared.map _
  case least =>
    rintro _ ⟨rs, hperm, hrs, rfl⟩
    have hplaces : (rs.map (place target g)).Perm (dependencies target g).order := by
      rw [← map_place_resources h]
      exact hperm.map _
    rw [map_place_resources h]
    exact hleast.2 ⟨hplaces.trans hleast.1.1, inOrder_map_place h hperm hrs⟩
  case declared =>
    intro hbackwards
    have hdeclared : p.resources = declared target g := resources_eq_declared h hbackwards
    rw [hdeclared, hnodes]

/-- The first node has to wait for the second, and then comes before the third at once. Declared in
the opposite order, the nodes stay as they are. -/
theorem resources_least_late :
    ∃ g g' : Graph,
      g = {
        nodes := [Node.ofType "app" "aws-ec2", Node.ofType "db" "aws-rds",
          Node.ofType "odd" "no-such-type", Node.ofType "logs" "aws-s3"]
        edges := [⟨"e1", "db", "app"⟩] } ∧
      g' = { g with nodes := g.nodes.reverse } ∧
      (g.nodes.map (·.id)).Nodup ∧ (g'.nodes.map (·.id)).Nodup ∧
      (ofGraph .terraform g).resources.map (place .terraform g) = [1, 0, 2] ∧
      IsLeast {places : List Nat | ∃ rs, rs.Perm (ofGraph .terraform g).resources ∧
        InDependencyOrder rs ∧ rs.map (place .terraform g) = places} [1, 0, 2] ∧
      (ofGraph .terraform g').resources.map (·.node) =
        g'.nodes.filter fun n => (Target.terraform.mapping? n.componentType).isSome := by
  let g : Graph := {
    nodes := [Node.ofType "app" "aws-ec2", Node.ofType "db" "aws-rds",
      Node.ofType "odd" "no-such-type", Node.ofType "logs" "aws-s3"]
    edges := [⟨"e1", "db", "app"⟩] }
  let g' : Graph := { g with nodes := g.nodes.reverse }
  have hids : (g.nodes.map (·.id)).Nodup := by decide
  have hids' : (g'.nodes.map (·.id)).Nodup := by decide
  have hplaces : (ofGraph .terraform g).resources.map (place .terraform g) = [1, 0, 2] := by
    decide +kernel
  have hbackwards : ∀ r ∈ (ofGraph .terraform g').resources,
      ∀ s ∈ (ofGraph .terraform g').resources, s.name ∈ r.dependsOn →
        place .terraform g' s < place .terraform g' r := by
    decide +kernel
  obtain ⟨-, hleast, -⟩ := resources_least .terraform g hids
  obtain ⟨-, -, hdeclared⟩ := resources_least .terraform g' hids'
  exact ⟨g, g', rfl, rfl, hids, hids', hplaces, hplaces ▸ hleast, hdeclared hbackwards⟩

end CloudGraph.Plan

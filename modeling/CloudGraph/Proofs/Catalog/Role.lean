import CloudGraph.Graph.Basic

/-!
# Roles in the catalog

Roles are lists of component types, and so is the catalog, and nothing in their definitions ties the
one to the other. But each type of a role is in the catalog, and all types of a role have one
category there (`Role.category_of_holds`). So the role of a node decides its category, whatever the
node itself is stored with (`Node.knownCategory_of_hasRole`).
-/

namespace CloudGraph

/-- The category of the types that hold the role. -/
def Role.category : Role → Category
  | .database | .cache => .database
  | .loadBalancer | .cdn => .network
  | .backup | .storage => .storage
  | .firewall | .waf => .security
  | .compute | .backend => .compute
  | .frontend => .frontend
  | .monitoring => .monitoring
  | .container => .container

theorem Role.mem_all (role : Role) : role ∈ all := by
  cases role <;> decide

theorem Role.category_of_holds {role : Role} {componentType : String}
    (h : role.holds componentType = true) :
    (Catalog.find? componentType).map (·.category) = some role.category := by
  have htable : ∀ role ∈ all, ∀ key ∈ role.typeKeys,
      (Catalog.find? key).map (·.category) = some role.category := by
    decide +kernel
  exact htable role role.mem_all componentType (List.contains_iff_mem.1 h)

theorem Role.isSome_find?_of_holds {role : Role} {componentType : String}
    (h : role.holds componentType = true) : (Catalog.find? componentType).isSome = true := by
  rw [← Option.isSome_map, category_of_holds h, Option.isSome_some]

theorem Node.knownCategory_of_hasRole {n : Node} {role : Role} (h : n.hasRole role = true) :
    n.knownCategory = role.category := by
  obtain ⟨entry, hentry, hcategory⟩ := Option.map_eq_some_iff.1 (Role.category_of_holds h)
  unfold knownCategory
  rw [hentry]
  exact hcategory

end CloudGraph

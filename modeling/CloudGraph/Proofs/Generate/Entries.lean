import CloudGraph.Proofs.Generate.Properties
import CloudGraph.Proofs.Generate.Unread

/-!
# Resource entries of Azure Resource Manager

An entry is put together from members of its own and from the properties of the resource. Their keys
are whatever the node has set, `name`, `properties` and `dependsOn` among them.

**Theorem (`entry_intact`).** Each property stands in an entry once and with its value: in the entry
itself if its key is one of `topLevelKeys`, and else in the object under `properties`. The structure
of the entry is the same for all settings.

* *Places* (`get?_ownMembers`, `get?_innerMembers`). Its key alone decides where a property stands.
* *Members* (`member?_entry`). Of equal keys the one that is put in later counts. The keys that a
  property may have in the entry itself are none of those of the structure, so all that gives way
  to a property is the default location.
* *Settings.* With other settings the plan is the same but for the settings
  (`Plan.ofGraph_mapNodes`).
-/

namespace CloudGraph

/-- The node with other settings. -/
def Node.reconfigured (settings : Node → Configuration) (n : Node) : Node :=
  { n with configuration := settings n }

theorem Node.keepsPlan_reconfigured (settings : Node → Configuration) :
    KeepsPlan (Node.reconfigured settings) :=
  ⟨fun _ => rfl, fun _ => rfl, fun _ => rfl⟩

namespace Arm

variable {g : Graph} {p : Plan} {r : PlannedResource} {key : String}

/-! ## Places -/

/-- The properties of a resource that stand in its entry itself. -/
def ownMembers (r : PlannedResource) : SortedMap Json :=
  r.properties.filter fun key _ => topLevelKeys.contains key

/-- The properties that stand under `properties`. -/
def innerMembers (r : PlannedResource) : SortedMap Json :=
  r.properties.filter fun key _ => !topLevelKeys.contains key

theorem get?_ownMembers (r : PlannedResource) (key : String) :
    (ownMembers r).get? key = if key ∈ topLevelKeys then r.properties.get? key else none := by
  unfold ownMembers
  rw [SortedMap.get?_filter]
  by_cases hkey : key ∈ topLevelKeys <;> cases r.properties.get? key <;> simp [hkey, Option.filter]

theorem get?_innerMembers (r : PlannedResource) (key : String) :
    (innerMembers r).get? key = if key ∈ topLevelKeys then none else r.properties.get? key := by
  unfold innerMembers
  rw [SortedMap.get?_filter]
  by_cases hkey : key ∈ topLevelKeys <;> cases r.properties.get? key <;> simp [hkey, Option.filter]

/-! ## Members -/

/-- The location of a resource that has no such property. -/
def defaultLocation : Json := .str "[parameters('location')]"

/-- The structure of an entry around the properties that stand in an object of their own. -/
def fixedMembers (p : Plan) (r : PlannedResource) (inner : SortedMap Json) :
    List (String × Json) := [
  ("type", .str r.mapping.resourceType),
  ("apiVersion", .str (r.mapping.apiVersion.getD defaultApiVersion)),
  ("name", .str (nameExpression r.name)),
  ("properties", .obj inner.entries),
  ("dependsOn", .strings (dependencies p r))]

theorem nodup_keys_fixedMembers (p : Plan) (r : PlannedResource) (inner : SortedMap Json) :
    ((fixedMembers p r inner).map (·.1)).Nodup := by
  show ["type", "apiVersion", "name", "properties", "dependsOn"].Nodup
  decide

/-- All that is put into an entry, one after another. -/
def allMembers (p : Plan) (r : PlannedResource) : List (String × Json) :=
  [("type", .str r.mapping.resourceType),
    ("apiVersion", .str (r.mapping.apiVersion.getD defaultApiVersion)),
    ("name", .str (nameExpression r.name)),
    ("location", defaultLocation)]
  ++ (ownMembers r).entries
  ++ [("properties", .obj (innerMembers r).entries), ("dependsOn", .strings (dependencies p r))]

theorem entry_eq_object (p : Plan) (r : PlannedResource) :
    entry p r = .object (allMembers p r) := by
  unfold entry
  rw [List.partition_eq_filter_filter, r.propertiesKeyed_id]
  rfl

theorem member?_entry (p : Plan) (r : PlannedResource) (key : String) :
    (entry p r).member? key =
      if key ∈ topLevelKeys then
        (r.properties.get? key).or (if key = "location" then some defaultLocation else none)
      else lookup key (fixedMembers p r (innerMembers r)) := by
  have hown : lookup key (ownMembers r).entries.reverse = (ownMembers r).get? key :=
    lookup_reverse (ownMembers r).increasing.nodup key
  rw [entry_eq_object, Json.member?_object]
  unfold allMembers
  rw [List.reverse_append, List.reverse_append, lookup_append, lookup_append, hown, get?_ownMembers]
  by_cases htop : key ∈ topLevelKeys
  · rw [if_pos htop, if_pos htop]
    simp only [topLevelKeys, List.mem_cons, List.not_mem_nil, or_false] at htop
    obtain rfl | rfl | rfl | rfl | rfl := htop <;> simp [lookup]
  · have hlocation : "location" ≠ key := by
      rintro rfl
      exact htop (by decide)
    rw [if_neg htop, if_neg htop, Option.none_or, ← lookup_reverse (nodup_keys_fixedMembers ..)]
    show (lookup key [_, _]).or (lookup key (("location", defaultLocation) :: [_, _, _])) =
      lookup key ([_, _] ++ [_, _, _])
    rw [lookup_append]
    exact congrArg _ (if_neg hlocation)

theorem member?_entry_of_fixed (h : key ∉ topLevelKeys) :
    (entry p r).member? key = lookup key (fixedMembers p r (innerMembers r)) := by
  rw [member?_entry, if_neg h]

theorem member?_entry_type : (entry p r).member? "type" = some (.str r.mapping.resourceType) :=
  member?_entry_of_fixed (by decide)

theorem member?_entry_name : (entry p r).member? "name" = some (.str (nameExpression r.name)) :=
  member?_entry_of_fixed (by decide)

theorem member?_entry_dependsOn :
    (entry p r).member? "dependsOn" = some (.strings (dependencies p r)) :=
  member?_entry_of_fixed (by decide)

/-! ## The location -/

theorem location_not_default :
    ∀ entry ∈ Mapping.arm, "location" ∉ entry.2.defaults.map (·.1) := by
  decide +kernel

/-- No default sets the location, so it is that of the node if there is one. -/
theorem get?_properties_location (h : r ∈ (Plan.ofGraph .arm g).resources) :
    r.properties.get? "location" = r.node.configuration.get? "location" := by
  obtain ⟨entry, hentry, hmapping⟩ := Plan.exists_entry_of_mem_resources h
  have hnone : r.defaults.get? "location" = none := by
    refine Option.not_isSome_iff_eq_none.1 fun hsome => ?_
    have hkey := PlannedResource.mem_keys_defaults.1 (SortedMap.isSome_get?_iff.1 hsome)
    exact location_not_default entry hentry (hmapping ▸ hkey)
  rw [r.get?_properties, hnone, Option.or_none]

/-! ## Other settings -/

/-- With other settings an entry may differ in its properties and its location only. -/
theorem member?_entry_mapNodes (f : Node → Node) (h : key ∉ "properties" :: topLevelKeys) :
    (entry (p.mapNodes f) (r.mapNode f)).member? key = (entry p r).member? key := by
  obtain ⟨hproperties, htop⟩ := List.ne_and_not_mem_of_not_mem_cons h
  rw [member?_entry_of_fixed htop, member?_entry_of_fixed htop]
  unfold fixedMembers
  rw [dependencies_mapNodes]
  simp only [lookup, if_neg (Ne.symm hproperties)]
  rfl

/-- **Entries keep the settings and their own structure.** The members of an entry are known key by
key. A property under one of `topLevelKeys` is a member of the entry, and any other one a member of
the object under `properties`; the location is the default just if the node sets none. Under all
other keys stands the structure of the entry, and other settings, at this node or another, leave it
as it is. -/
theorem entry_intact (h : r ∈ (Plan.ofGraph .arm g).resources) :
    let p := Plan.ofGraph .arm g
    ∃ members inner : SortedMap Json,
      entry p r = .obj members.entries ∧
      (∀ key value, r.node.configuration.get? key = some value →
        r.properties.get? key = some value) ∧
      (∀ key, inner.get? key = if key ∈ topLevelKeys then none else r.properties.get? key) ∧
      (∀ key, members.get? key =
        if key = "location" then some ((r.node.configuration.get? key).getD defaultLocation)
        else if key ∈ topLevelKeys then r.properties.get? key
        else lookup key (fixedMembers p r inner)) ∧
      ∀ settings : Node → Configuration,
        let p' := Plan.ofGraph .arm (g.mapNodes (Node.reconfigured settings))
        let r' := r.mapNode (Node.reconfigured settings)
        r' ∈ p'.resources ∧ ∀ key ∈ ["type", "apiVersion", "name", "dependsOn"],
          (entry p' r').member? key = (entry p r).member? key := by
  intro p
  refine ⟨⟨insertAll (allMembers p r) [], keysIncrease_insertAll_nil _⟩, innerMembers r,
    entry_eq_object p r, fun key value hvalue => ?_, get?_innerMembers r, fun key => ?_,
    fun settings => ?_⟩
  · rw [r.get?_properties, hvalue, Option.some_or]
  · have hmember : (SortedMap.mk (insertAll (allMembers p r) [])
        (keysIncrease_insertAll_nil _)).get? key = (entry p r).member? key := by
      rw [entry_eq_object]
      rfl
    rw [hmember, member?_entry]
    by_cases hlocation : key = "location"
    · subst hlocation
      rw [if_pos (by decide), if_pos rfl, if_pos rfl, get?_properties_location h,
        Option.or_some]
    · rw [if_neg hlocation, if_neg hlocation, Option.or_none]
  · intro p' r'
    have hplan : p' = p.mapNodes (Node.reconfigured settings) :=
      Plan.ofGraph_mapNodes (Node.keepsPlan_reconfigured settings) .arm g
    rw [hplan]
    refine ⟨List.mem_map_of_mem h, fun key hkey => member?_entry_mapNodes _ ?_⟩
    revert key
    decide

theorem entry_intact_hostile_keys :
    ∃ g : Graph,
      g = {
        nodes := [{ Node.ofType "net" "azure-vnet" with
            configuration := .ofList [("location", .str "west")] },
          { Node.ofType "fn" "azure-functions" with
            configuration := .ofList (["apiVersion", "dependsOn", "kind", "name", "properties",
              "type"].map fun key => (key, .str "mine")) }]
        edges := [⟨"e", "net", "fn"⟩] } ∧
      ∃ r ∈ (Plan.ofGraph .arm g).resources,
        r.name = "fn" ∧
        ∃ members inner : SortedMap Json,
          entry (Plan.ofGraph .arm g) r = .obj members.entries ∧
          members.get? "location" = some defaultLocation ∧
          (members.get? "kind").bind Json.asText? = some "mine" ∧
          (∀ key ∈ ["apiVersion", "dependsOn", "name", "properties", "type"],
            members.get? key = lookup key (fixedMembers (Plan.ofGraph .arm g) r inner) ∧
              (inner.get? key).bind Json.asText? = some "mine") := by
  let g : Graph := {
    nodes := [{ Node.ofType "net" "azure-vnet" with
        configuration := .ofList [("location", .str "west")] },
      { Node.ofType "fn" "azure-functions" with
        configuration := .ofList (["apiVersion", "dependsOn", "kind", "name", "properties",
          "type"].map fun key => (key, .str "mine")) }]
    edges := [⟨"e", "net", "fn"⟩] }
  refine ⟨g, rfl, ?_⟩
  have hfound : ∃ r ∈ (Plan.ofGraph .arm g).resources,
      r.name = "fn" ∧ (r.node.configuration.get? "location").isNone = true ∧
        (∀ key ∈ ["kind", "apiVersion", "dependsOn", "name", "properties", "type"],
          (r.properties.get? key).bind Json.asText? = some "mine") := by
    decide +kernel
  obtain ⟨r, hr, hname, hlocation, hmine⟩ := hfound
  obtain ⟨members, inner, hentry, -, hinner, hmembers, -⟩ := entry_intact hr
  refine ⟨r, hr, hname, members, inner, hentry, ?_, ?_, fun key hkey => ?_⟩
  · rw [hmembers, if_pos rfl, Option.isNone_iff_eq_none.1 hlocation]
    rfl
  · rw [hmembers, if_neg (by decide), if_pos (by decide)]
    exact hmine _ List.mem_cons_self
  · have hfixed : key ≠ "location" ∧ key ∉ topLevelKeys := by
      revert key
      decide
    rw [hmembers, if_neg hfixed.1, if_neg hfixed.2, hinner, if_neg hfixed.2]
    exact ⟨rfl, hmine key (List.mem_cons_of_mem _ hkey)⟩

end Arm

end CloudGraph

import CloudGraph.Proofs.Generate.Plan.Resources
import CloudGraph.Proofs.SortedMap

/-!
# The words of a plan

A document is written from the names of the resources and from their types. Both are plain words,
whatever the labels and ids of the nodes: a name has only characters of the target's style, and a
type only those of the target's table. So neither holds a blank, a line break or a quote, and
neither can end the word that it stands in.

A name is also enough to find its resource (`resource?_eq_some_iff`), because the names of a plan
are pairwise distinct. For the same reason the resources do not replace each other's members in an
object with a key for each name (`membersBy_perm`, `lookup_membersBy`).
-/

namespace CloudGraph

open IdentifierStyle

/-! ## Characters of a name -/

namespace NameAllocator

/-- A name has only characters of the style, even where the bound leaves no room for a suffix. -/
theorem isRest_of_mem_choose {a : NameAllocator} {raw : String} {c : Char}
    (h : c ∈ (a.choose raw).toList) : a.style.isRest c = true := by
  have hbase := isRest_of_acceptsChars (Identifier.accepts_sanitize a.style raw a.maxLength)
  rcases choose_cases a raw with ⟨heq, -⟩ | ⟨n, -, heq, -⟩
  · exact hbase c (heq ▸ h)
  · rw [heq, toList_variant] at h
    rcases List.mem_append.1 h with hc | hc
    · exact hbase c (List.mem_of_mem_take hc)
    · exact isRest_of_mem_suffix hc

theorem isRest_of_mem_allocateAll {a : NameAllocator} {raws : List String} {name : String}
    (h : name ∈ (a.allocateAll raws).1) {c : Char} (hc : c ∈ name.toList) :
    a.style.isRest c = true := by
  induction raws generalizing a with
  | nil => simp at h
  | cons raw rest ih =>
    rw [allocateAll_cons] at h
    rcases List.mem_cons.1 h with rfl | h
    · exact isRest_of_mem_choose hc
    · exact ih (a := (a.allocate raw).2) h

end NameAllocator

namespace Plan

variable {target : Target} {g : Graph} {r : PlannedResource}

theorem mem_mapped_of_mem_resources (h : r ∈ (ofGraph target g).resources) :
    (r.node, r.mapping) ∈ mapped target g.nodes := by
  rw [← map_node_declared]
  exact List.mem_map_of_mem (resources_perm_declared.mem_iff.1 h)

/-- The mapping of a resource is one of the target's table. -/
theorem exists_entry_of_mem_resources (h : r ∈ (ofGraph target g).resources) :
    ∃ entry ∈ target.mappings, entry.2 = r.mapping := by
  obtain ⟨entry, hentry, hmapping⟩ :=
    Option.map_eq_some_iff.1 (mapping?_of_mem_mapped (mem_mapped_of_mem_resources h))
  exact ⟨entry, List.mem_of_find?_eq_some hentry, hmapping⟩

theorem nodup_names : ((ofGraph target g).resources.map (·.name)).Nodup :=
  (resources_perm_declared.map _).nodup_iff.2 nodup_name_declared

theorem name_mem_mappedNames (h : r ∈ (ofGraph target g).resources) :
    r.name ∈ mappedNames target g := by
  rw [← map_name_declared]
  exact List.mem_map_of_mem (resources_perm_declared.mem_iff.1 h)

theorem isRest_of_mem_name (h : r ∈ (ofGraph target g).resources) {c : Char}
    (hc : c ∈ r.name.toList) : target.identifierStyle.isRest c = true :=
  NameAllocator.isRest_of_mem_allocateAll (name_mem_mappedNames h) hc

/-- What a resource depends on is the name of a resource. -/
theorem exists_resource_of_mem_dependsOn (h : r ∈ (ofGraph target g).resources) {name : String}
    (hname : name ∈ r.dependsOn) : ∃ s ∈ (ofGraph target g).resources, s.name = name := by
  obtain ⟨k, hk, rfl⟩ := List.getElem_of_mem h
  obtain ⟨j, -, s, hs, hsname⟩ := earlier_of_mem_dependsOn (List.getElem?_eq_getElem hk) hname
  exact ⟨s, List.mem_of_getElem? hs, hsname⟩

theorem isRest_of_mem_dependsOn (h : r ∈ (ofGraph target g).resources) {name : String}
    (hname : name ∈ r.dependsOn) {c : Char} (hc : c ∈ name.toList) :
    target.identifierStyle.isRest c = true := by
  obtain ⟨s, hs, rfl⟩ := exists_resource_of_mem_dependsOn h hname
  exact isRest_of_mem_name hs hc

theorem name_not_reserved (h : r ∈ (ofGraph target g).resources) :
    r.name ∉ target.reservedNames :=
  NameAllocator.not_mem_used_of_mem_allocateAll (name_mem_mappedNames h)

theorem resource?_eq_some_iff {name : String} :
    (ofGraph target g).resource? name = some r ↔
      r ∈ (ofGraph target g).resources ∧ r.name = name := by
  have hsound : ∀ s, (ofGraph target g).resource? name = some s →
      s ∈ (ofGraph target g).resources ∧ s.name = name := fun s hs => by
    have hname := List.find?_some hs
    exact ⟨List.mem_of_find?_eq_some hs, eq_of_beq hname⟩
  refine ⟨hsound r, ?_⟩
  rintro ⟨hr, rfl⟩
  have hfound : ((ofGraph target g).resource? r.name).isSome = true :=
    List.find?_isSome.2 ⟨r, hr, beq_self_eq_true r.name⟩
  obtain ⟨s, hs⟩ := Option.isSome_iff_exists.1 hfound
  obtain ⟨hmem, hname⟩ := hsound s hs
  rw [hs, List.inj_on_of_nodup_map nodup_names hmem hr hname]

/-! ## Members under the names -/

section Members

variable {α β : Type} {key : String → String}

/-- What an object holds after each resource has put in a member, under a key made from its
name. -/
def membersBy (p : Plan) (key : String → String) (value : PlannedResource → α) :
    List (String × α) :=
  insertAll (p.resources.map fun r => (key r.name, value r)) []

/-- No member replaces another if different names make different keys. -/
theorem membersBy_perm (hkey : Function.Injective key) (value : PlannedResource → α) :
    (membersBy (ofGraph target g) key value).Perm
      ((ofGraph target g).resources.map fun r => (key r.name, value r)) := by
  refine insertAll_nil_perm ?_
  rw [List.map_map]
  exact (List.map_map ▸ nodup_names.map hkey :)

theorem keysIncrease_membersBy (p : Plan) (key : String → String) (value : PlannedResource → α) :
    KeysIncrease (p.membersBy key value) :=
  keysIncrease_insertAll_nil _

theorem keys_membersBy_perm (hkey : Function.Injective key) (value : PlannedResource → α) :
    ((membersBy (ofGraph target g) key value).map (·.1)).Perm
      ((ofGraph target g).resources.map fun r => key r.name) :=
  ((membersBy_perm hkey value).map _).trans (.of_eq List.map_map)

/-- The keys do not depend on the values. -/
theorem keys_membersBy_eq (hkey : Function.Injective key) (value : PlannedResource → α)
    (value' : PlannedResource → β) :
    (membersBy (ofGraph target g) key value).map (·.1) =
      (membersBy (ofGraph target g) key value').map (·.1) :=
  (keysIncrease_membersBy _ _ _).keys_eq (keysIncrease_membersBy _ _ _)
    ((keys_membersBy_perm hkey value).trans (keys_membersBy_perm hkey value').symm)

theorem lookup_membersBy (hkey : Function.Injective key) (value : PlannedResource → α)
    (h : r ∈ (ofGraph target g).resources) :
    lookup (key r.name) (membersBy (ofGraph target g) key value) = some (value r) := by
  rw [lookup_eq_some_iff (keysIncrease_membersBy _ _ _).nodup, (membersBy_perm hkey value).mem_iff]
  exact List.mem_map_of_mem h

theorem entries_nameMap (p : Plan) : p.nameMap.entries = p.membersBy id (·.node.id) :=
  SortedMap.entries_ofList _

end Members

/-! ## Characters of a type -/

/-- The characters of resource types. -/
def isTypeChar (c : Char) : Bool :=
  c.isAlphanum || c == '_' || c == '.' || c == ':' || c == '/'

theorem chars_of_mem_mappings (target : Target) :
    ∀ m ∈ target.mappings,
      ∃ cs, m.2.resourceType = String.ofList cs ∧ cs.all isTypeChar = true := by
  cases target <;>
    simp only [Target.mappings, Mapping.terraform, Mapping.terraformAws, Mapping.terraformAzure,
      Mapping.terraformGcp, Mapping.pulumi, Mapping.pulumiAws, Mapping.pulumiAzure,
      Mapping.pulumiGcp, Mapping.arm, Mapping.armType, Mapping.cloudFormation,
      List.forall_mem_append, List.forall_mem_cons] <;>
    repeat' apply And.intro
  all_goals first | exact ⟨_, rfl, rfl⟩ | exact List.forall_mem_nil _

theorem isTypeChar_of_mem_resourceType (h : r ∈ (ofGraph target g).resources) {c : Char}
    (hc : c ∈ r.mapping.resourceType.toList) : isTypeChar c = true := by
  obtain ⟨entry, hentry, hmapping⟩ := exists_entry_of_mem_resources h
  obtain ⟨cs, hcs, hall⟩ := chars_of_mem_mappings target entry hentry
  rw [← hmapping, hcs, String.toList_ofList] at hc
  exact List.all_eq_true.1 hall c hc

end Plan

end CloudGraph

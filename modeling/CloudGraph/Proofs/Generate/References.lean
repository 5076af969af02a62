import CloudGraph.Proofs.Generate.Entries

/-!
# References within a document

A document for Azure Resource Manager or CloudFormation refers to its own parts by name: to a
variable, to a resource that another one depends on, to the resource of an output. It is *closed*
when each reference leads to a part that it has.

**Members** (`Plan.membersBy`). Variables, outputs and resources stand under keys made from the
names of the resources. The names are distinct and different names make different keys, so no part
is lost to another with the same key.

**Expressions** (`Arm.variableReferences`). The variables that an expression refers to are found
where they are written, by a search of its text. A name or a type has no quote and no opening
parenthesis, so neither can hold a reference of its own, nor end the one that it stands in.

**Dependencies** (`Plan.filterMap_resource?_dependsOn`). Each name that a resource depends on is
that of a resource, so the documents hold as many dependencies as the plan.
-/

namespace CloudGraph

/-- The items under a key of an object. -/
def Json.itemsUnder (key : String) (v : Json) : List Json :=
  match v.member? key with
  | some (.arr items) => items
  | _ => []

theorem Json.itemsUnder_of_member? {key : String} {v : Json} {items : List Json}
    (h : v.member? key = some (.arr items)) : v.itemsUnder key = items := by
  unfold itemsUnder
  rw [h]

theorem append_injective (ending : String) : Function.Injective (· ++ ending) :=
  fun _ _ h => (String.append_left_inj ending).1 h

namespace Plan

variable {target : Target} {g : Graph} {r : PlannedResource}

/-- The resources that a resource depends on, one for each name. -/
theorem filterMap_resource?_dependsOn (h : r ∈ (ofGraph target g).resources) :
    (r.dependsOn.filterMap (ofGraph target g).resource?).length = r.dependsOn.length := by
  refine List.filterMap_length_eq_length.2 fun name hname => ?_
  obtain ⟨s, hs⟩ := exists_resource_of_mem_dependsOn h hname
  rw [resource?_eq_some_iff.2 hs]
  rfl

end Plan

/-! ## Azure Resource Manager -/

namespace Arm

/-- What comes before the name of a variable. -/
def referenceOpening : List Char := ['v', 'a', 'r', 'i', 'a', 'b', 'l', 'e', 's', '(', '\'']

/-- The variables that an expression refers to: wherever the opening of a reference stands, what
follows it up to the next quote. -/
def variableReferences : List Char → List String
  | [] => []
  | c :: cs =>
    if referenceOpening.isPrefixOf (c :: cs) then
      .ofList (((c :: cs).drop referenceOpening.length).takeWhile (· != '\'')) ::
        variableReferences cs
    else variableReferences cs

/-- The parts of a template that refer to each other. -/
structure Sections where
  vars : List (String × Json)
  resources : List Json
  outputs : List (String × Json)

def sections? (template : Json) : Option Sections :=
  match template.member? "variables", template.member? "resources", template.member? "outputs" with
  | some (.obj vars), some (.arr resources), some (.obj outputs) =>
    some ⟨vars, resources, outputs⟩
  | _, _, _ => none

/-- The texts that refer to variables: the name of each resource, what it depends on, and the value
of each output. -/
def Sections.expressions (s : Sections) : List String :=
  (s.resources.filterMap (·.member? "name") ++ s.resources.flatMap (·.itemsUnder "dependsOn") ++
    s.outputs.filterMap (·.2.member? "value")).filterMap Json.asText?

/-- A template that refers only to what it has. -/
structure Closed (p : Plan) (dependencyCount : Nat) (s : Sections) : Prop where
  /-- One entry for each resource, in the order of the plan. -/
  entries : s.resources.map (fun e => (e.member? "type", e.member? "name")) =
    p.resources.map fun r =>
      (some (.str r.mapping.resourceType), some (.str (nameExpression r.name)))
  vars_perm : s.vars.Perm (p.resources.map fun r => (r.name ++ "Name", .str r.name))
  vars_nodup : (s.vars.map (·.1)).Nodup
  outputs_perm : (s.outputs.map (·.1)).Perm (p.resources.map fun r => r.name ++ "Id")
  outputs_nodup : (s.outputs.map (·.1)).Nodup
  output : ∀ r ∈ p.resources, (lookup (r.name ++ "Id") s.outputs).bind (·.member? "value") =
    some (.str (resourceId r.mapping.resourceType r.name))
  references : ∀ e ∈ s.expressions, ∀ v ∈ variableReferences e.toList, v ∈ s.vars.map (·.1)
  /-- What an entry depends on is the id of a resource with an earlier entry. -/
  dependsOn : ∀ (k : Nat) (entry : Json), s.resources[k]? = some entry →
    ∀ d ∈ entry.itemsUnder "dependsOn", ∃ j < k, ∃ r : PlannedResource,
      p.resources[j]? = some r ∧ d = .str (resourceId r.mapping.resourceType r.name)
  count : total (fun e => (e.itemsUnder "dependsOn").length) s.resources = dependencyCount

/-! ### Expressions -/

theorem variableReferences_cons_of_ne {c : Char} (h : c ≠ 'v') (cs : List Char) :
    variableReferences (c :: cs) = variableReferences cs := by
  rw [variableReferences, if_neg]
  simp [referenceOpening, Ne.symm h]

theorem takeWhile_append_quote {text : List Char} (h : ∀ c ∈ text, c ≠ '(' ∧ c ≠ '\'')
    (rest : List Char) : (text ++ '\'' :: rest).takeWhile (· != '\'') = text := by
  rw [List.takeWhile_append_of_pos fun c hc => by simpa using (h c hc).2]
  simp

/-- Text up to a quote holds no reference if it has no opening parenthesis. -/
theorem variableReferences_append_quote {text : List Char}
    (h : ∀ c ∈ text, c ≠ '(' ∧ c ≠ '\'') (rest : List Char) :
    variableReferences (text ++ '\'' :: rest) = variableReferences rest := by
  induction text with
  | nil => exact variableReferences_cons_of_ne (by decide) rest
  | cons c text ih =>
    obtain ⟨hc, htext⟩ := List.forall_mem_cons.1 h
    rw [List.cons_append, variableReferences, if_neg, ih htext]
    intro hprefix
    obtain ⟨after, hafter⟩ := List.isPrefixOf_iff_prefix.1 hprefix
    -- up to the first quote stands the text on one side, and `variables(` on the other
    have hopening : (referenceOpening ++ after).takeWhile (· != '\'') =
        ['v', 'a', 'r', 'i', 'a', 'b', 'l', 'e', 's', '('] := by
      simp [referenceOpening]
    rw [hafter, ← List.cons_append, takeWhile_append_quote h] at hopening
    exact (h '(' (by simp [hopening])).1 rfl

theorem variableReferences_opening (rest : List Char) :
    variableReferences (referenceOpening ++ rest) =
      .ofList (rest.takeWhile (· != '\'')) :: variableReferences rest := by
  have hprefix : referenceOpening.isPrefixOf ('v' :: (referenceOpening.tail ++ rest)) = true :=
    List.isPrefixOf_iff_prefix.2 (List.prefix_append referenceOpening rest)
  have htail : variableReferences (referenceOpening.tail ++ rest) = variableReferences rest := by
    simp [referenceOpening, variableReferences_cons_of_ne]
  show variableReferences ('v' :: (referenceOpening.tail ++ rest)) = _
  rw [variableReferences, if_pos hprefix, htail]
  rfl

/-- A name between quotes is what a reference leads to. -/
theorem variableReferences_name {name : List Char} (h : ∀ c ∈ name, c ≠ '(' ∧ c ≠ '\'')
    (rest : List Char) :
    variableReferences (referenceOpening ++ (name ++ '\'' :: rest)) =
      .ofList name :: variableReferences rest := by
  rw [variableReferences_opening, variableReferences_append_quote h, takeWhile_append_quote h]

example : variableReferences "[concat(variables('aName'), variables('bName'))]".toList =
    ["aName", "bName"] := by decide

/-! ### Entries -/

variable {g : Graph} {p : Plan} {r : PlannedResource}

theorem name_plain (h : r ∈ (Plan.ofGraph .arm g).resources) :
    ∀ c ∈ (variableName r.name).toList, c ≠ '(' ∧ c ≠ '\'' := by
  intro c hc
  unfold variableName at hc
  rcases List.mem_append.1 (String.toList_append ▸ hc) with hc | hc
  · have hrest := Plan.isRest_of_mem_name h hc
    constructor <;> (rintro rfl; exact absurd hrest (by decide))
  · have hending : ∀ d ∈ ['N', 'a', 'm', 'e'], d ≠ '(' ∧ d ≠ '\'' := by simp
    exact hending c (by simpa using hc)

theorem type_plain (h : r ∈ (Plan.ofGraph .arm g).resources) :
    ∀ c ∈ r.mapping.resourceType.toList, c ≠ '(' ∧ c ≠ '\'' := by
  intro c hc
  have htype := Plan.isTypeChar_of_mem_resourceType h hc
  constructor <;> (rintro rfl; exact absurd htype (by decide))

theorem variableReferences_nameExpression (h : r ∈ (Plan.ofGraph .arm g).resources) :
    variableReferences (nameExpression r.name).toList = [variableName r.name] := by
  have htext : (nameExpression r.name).toList =
      '[' :: (referenceOpening ++ ((variableName r.name).toList ++ '\'' :: [')', ']'])) := by
    unfold nameExpression
    simp [referenceOpening]
  rw [htext, variableReferences_cons_of_ne (by decide), variableReferences_name (name_plain h),
    String.ofList_toList]
  rfl

theorem variableReferences_resourceId (h : r ∈ (Plan.ofGraph .arm g).resources) :
    variableReferences (resourceId r.mapping.resourceType r.name).toList =
      [variableName r.name] := by
  have htext : (resourceId r.mapping.resourceType r.name).toList =
      ['[', 'r', 'e', 's', 'o', 'u', 'r', 'c', 'e', 'I', 'd', '(', '\''] ++
        (r.mapping.resourceType.toList ++ '\'' :: ',' :: ' ' :: (referenceOpening ++
          ((variableName r.name).toList ++ '\'' :: [')', ')', ']']))) := by
    unfold resourceId
    simp [referenceOpening]
  have hskip : ∀ rest, variableReferences
      (['[', 'r', 'e', 's', 'o', 'u', 'r', 'c', 'e', 'I', 'd', '(', '\''] ++ rest) =
        variableReferences rest := fun rest => by
    simp [variableReferences_cons_of_ne]
  rw [htext, hskip, variableReferences_append_quote (type_plain h),
    variableReferences_cons_of_ne (by decide), variableReferences_cons_of_ne (by decide),
    variableReferences_name (name_plain h), String.ofList_toList]
  rfl

/-! ### Entries -/

theorem itemsUnder_entry :
    (entry p r).itemsUnder "dependsOn" = (dependencies p r).map .str :=
  Json.itemsUnder_of_member? member?_entry_dependsOn

theorem exists_of_mem_dependencies {id : String} (h : id ∈ dependencies (Plan.ofGraph .arm g) r) :
    ∃ s ∈ (Plan.ofGraph .arm g).resources, s.name ∈ r.dependsOn ∧
      id = resourceId s.mapping.resourceType s.name := by
  obtain ⟨s, hs, rfl⟩ := List.mem_map.1 h
  obtain ⟨name, hname, hfound⟩ := List.mem_filterMap.1 hs
  obtain ⟨hmem, rfl⟩ := Plan.resource?_eq_some_iff.1 hfound
  exact ⟨s, hmem, hname, rfl⟩

theorem member?_output :
    (output r).2.member? "value" = some (.str (resourceId r.mapping.resourceType r.name)) := by
  unfold output
  rw [Json.member?_object]
  rfl

/-! ### The template -/

/-- The sections that a plan fills. -/
def planSections (p : Plan) : Sections where
  vars := p.membersBy variableName fun r => .str r.name
  resources := p.resources.map (entry p)
  outputs := p.membersBy (· ++ "Id") fun r => (output r).2

theorem sections?_template : sections? (template p) = some (planSections p) := by
  unfold sections? template
  simp only [Json.member?_object]
  rfl

/-- Each expression refers to the name of one resource. -/
theorem exists_of_mem_expressions {e : String}
    (h : e ∈ (planSections (Plan.ofGraph .arm g)).expressions) :
    ∃ r ∈ (Plan.ofGraph .arm g).resources,
      variableReferences e.toList = [variableName r.name] := by
  obtain ⟨v, hv, he⟩ := List.mem_filterMap.1 h
  rcases List.mem_append.1 hv with hv | hv
  · rcases List.mem_append.1 hv with hv | hv
    · obtain ⟨_, hentry, hname⟩ := List.mem_filterMap.1 hv
      obtain ⟨r, hr, rfl⟩ := List.mem_map.1 hentry
      rw [member?_entry_name] at hname
      cases hname
      cases he
      exact ⟨r, hr, variableReferences_nameExpression hr⟩
    · obtain ⟨_, hentry, hitem⟩ := List.mem_flatMap.1 hv
      obtain ⟨r, hr, rfl⟩ := List.mem_map.1 hentry
      rw [itemsUnder_entry] at hitem
      obtain ⟨id, hid, rfl⟩ := List.mem_map.1 hitem
      obtain ⟨s, hs, -, rfl⟩ := exists_of_mem_dependencies hid
      cases he
      exact ⟨s, hs, variableReferences_resourceId hs⟩
  · obtain ⟨m, hm, hvalue⟩ := List.mem_filterMap.1 hv
    obtain ⟨r, hr, rfl⟩ := List.mem_map.1 ((Plan.membersBy_perm (append_injective "Id")
      fun r => (output r).2).mem_iff.1 hm)
    rw [member?_output] at hvalue
    cases hvalue
    cases he
    exact ⟨r, hr, variableReferences_resourceId hr⟩

theorem closed_template :
    Closed (Plan.ofGraph .arm g) (Plan.ofGraph .arm g).dependencyCount
      (planSections (Plan.ofGraph .arm g)) where
  entries := by
    show List.map _ (List.map _ _) = _
    rw [List.map_map]
    refine List.map_congr_left fun r _ => ?_
    exact Prod.ext member?_entry_type member?_entry_name
  vars_perm := Plan.membersBy_perm (append_injective "Name") _
  vars_nodup := (Plan.keysIncrease_membersBy ..).nodup
  outputs_perm := Plan.keys_membersBy_perm (append_injective "Id") _
  outputs_nodup := (Plan.keysIncrease_membersBy _ (· ++ "Id") _).nodup
  output := fun r hr => by
    have hfound := Plan.lookup_membersBy (append_injective "Id") (fun r => (output r).2) hr
    exact (congrArg (fun o : Option Json => o.bind (·.member? "value")) hfound).trans member?_output
  references := fun e he v hv => by
    obtain ⟨r, hr, heq⟩ := exists_of_mem_expressions he
    rw [heq, List.mem_singleton] at hv
    subst hv
    refine List.mem_map.2 ⟨(variableName r.name, .str r.name), ?_, rfl⟩
    exact (Plan.membersBy_perm (append_injective "Name") _).mem_iff.2 (List.mem_map_of_mem hr)
  dependsOn := fun k entry hentry d hd => by
    obtain ⟨r, hr, rfl⟩ := Option.map_eq_some_iff.1 (List.getElem?_map ▸ hentry)
    rw [itemsUnder_entry] at hd
    obtain ⟨id, hid, rfl⟩ := List.mem_map.1 hd
    obtain ⟨s, hs, hname, rfl⟩ := exists_of_mem_dependencies hid
    obtain ⟨j, hj, s', hs', heq⟩ := Plan.earlier_of_mem_dependsOn hr hname
    have hsame : s' = s := Option.some.inj <|
      (Plan.resource?_eq_some_iff.2 ⟨List.mem_of_getElem? hs', heq⟩).symm.trans
        (Plan.resource?_eq_some_iff.2 ⟨hs, rfl⟩)
    exact ⟨j, hj, s, hsame ▸ hs', rfl⟩
  count := by
    show total _ (List.map _ _) = total _ _
    rw [total_map]
    refine total_congr fun r hr => ?_
    rw [itemsUnder_entry, List.length_map]
    unfold dependencies
    rw [List.length_map, Plan.filterMap_resource?_dependsOn hr]

end Arm

/-! ## CloudFormation -/

namespace CloudFormation

/-- The parts of a template that refer to each other. -/
structure Sections where
  nodes : List (String × Json)
  resources : List (String × Json)
  outputs : List (String × Json)

def sections? (template : Json) : Option Sections :=
  match (template.member? "Mappings").bind (·.member? "ResourceNodes"),
    template.member? "Resources", template.member? "Outputs" with
  | some (.obj nodes), some (.obj resources), some (.obj outputs) =>
    some ⟨nodes, resources, outputs⟩
  | _, _, _ => none

/-- A template that refers only to what it has, under the names of a map. -/
structure Closed (p : Plan) (nameMap : SortedMap String) (dependencyCount : Nat) (s : Sections) :
    Prop where
  names_perm : nameMap.keys.Perm (p.resources.map (·.name))
  resources_keys : s.resources.map (·.1) = nameMap.keys
  nodes_keys : s.nodes.map (·.1) = nameMap.keys
  nodeId : ∀ name ∈ nameMap.keys, ∃ id, nameMap.get? name = some id ∧
    (lookup name s.nodes).bind (·.member? "NodeId") = some (.str id)
  dependsOn : ∀ e ∈ s.resources, ∀ d ∈ e.2.itemsUnder "DependsOn",
    ∃ name ∈ s.resources.map (·.1), d = .str name
  outputs_perm : (s.outputs.map (·.1)).Perm (p.resources.map fun r => r.name ++ "Ref")
  outputs_nodup : (s.outputs.map (·.1)).Nodup
  output : ∀ r ∈ p.resources,
    ((lookup (r.name ++ "Ref") s.outputs).bind (·.member? "Value")).bind (·.member? "Ref") =
      some (.str r.name)
  count : total (fun e => (e.2.itemsUnder "DependsOn").length) s.resources = dependencyCount

variable {g : Graph} {p : Plan} {r : PlannedResource}

/-- The sections that a plan fills. -/
def planSections (p : Plan) : Sections where
  nodes := p.membersBy id fun r => (nodeId r).2
  resources := p.membersBy id fun r => (entry r).2
  outputs := p.membersBy (· ++ "Ref") fun r => (output r).2

theorem sections?_template : sections? (template p) = some (planSections p) := by
  unfold sections? template
  simp only [Json.member?_object]
  rfl

theorem member?_nodeId : (nodeId r).2.member? "NodeId" = some (.str r.node.id) := by
  unfold nodeId
  rw [Json.member?_object]
  rfl

theorem itemsUnder_entry : (entry r).2.itemsUnder "DependsOn" = r.dependsOn.map .str := by
  refine Json.itemsUnder_of_member? ?_
  unfold entry
  rw [Json.member?_object]
  rfl

theorem member?_output :
    ((output r).2.member? "Value").bind (·.member? "Ref") = some (.str r.name) := by
  unfold output
  rw [Json.member?_object]
  rfl

theorem closed_template :
    Closed (Plan.ofGraph .cloudFormation g) (Plan.ofGraph .cloudFormation g).nameMap
      (Plan.ofGraph .cloudFormation g).dependencyCount
      (planSections (Plan.ofGraph .cloudFormation g)) := by
  let p := Plan.ofGraph .cloudFormation g
  have hkeys : p.nameMap.keys = (p.membersBy id (·.node.id)).map (·.1) := by
    rw [SortedMap.keys, p.entries_nameMap]
  have hperm : p.nameMap.keys.Perm (p.resources.map (·.name)) :=
    hkeys ▸ Plan.keys_membersBy_perm Function.injective_id _
  have hresources : (p.membersBy id fun r => (entry r).2).map (·.1) = p.nameMap.keys :=
    (Plan.keys_membersBy_eq Function.injective_id _ _).trans hkeys.symm
  refine {
    names_perm := hperm
    resources_keys := hresources
    nodes_keys := (Plan.keys_membersBy_eq Function.injective_id _ _).trans hkeys.symm
    nodeId := fun name hname => ?nodeId
    dependsOn := fun e he d hd => ?dependsOn
    outputs_perm := Plan.keys_membersBy_perm (append_injective "Ref") _
    outputs_nodup := (Plan.keysIncrease_membersBy _ (· ++ "Ref") _).nodup
    output := fun r hr => ?output
    count := ?count }
  case nodeId =>
    obtain ⟨r, hr, rfl⟩ := List.mem_map.1 (hperm.mem_iff.1 hname)
    have hid := Plan.lookup_membersBy Function.injective_id (·.node.id) hr
    have hnode := Plan.lookup_membersBy Function.injective_id (fun r => (nodeId r).2) hr
    have hmember := congrArg (fun o : Option Json => o.bind (·.member? "NodeId")) hnode
    refine ⟨r.node.id, ?_, hmember.trans member?_nodeId⟩
    rw [SortedMap.get?, p.entries_nameMap]
    exact hid
  case dependsOn =>
    obtain ⟨r, hr, rfl⟩ := List.mem_map.1
      ((Plan.membersBy_perm Function.injective_id _).mem_iff.1 he)
    rw [itemsUnder_entry] at hd
    obtain ⟨name, hname, rfl⟩ := List.mem_map.1 hd
    obtain ⟨s, hs, rfl⟩ := Plan.exists_resource_of_mem_dependsOn hr hname
    exact ⟨s.name, hresources ▸ hperm.mem_iff.2 (List.mem_map_of_mem hs), rfl⟩
  case output =>
    have hfound := Plan.lookup_membersBy (append_injective "Ref") (fun r => (output r).2) hr
    exact (congrArg (fun o : Option Json => (o.bind (·.member? "Value")).bind (·.member? "Ref"))
      hfound).trans member?_output
  case count =>
    show total _ (Plan.membersBy _ _ _) = total _ _
    rw [total_perm _ (Plan.membersBy_perm Function.injective_id _), total_map]
    refine total_congr fun r _ => ?_
    rw [itemsUnder_entry, List.length_map]

end CloudFormation

/-- **Closed references.** Generation for Azure Resource Manager and for CloudFormation gives one
document, whatever the graph. Its text is its template written out, and the template refers only to
what it has. -/
theorem documents_closed (g : Graph) :
    (∃ (a : Artifact) (template : Json) (s : Arm.Sections),
      generate .arm g = .ok a ∧
        a.documents = [⟨"azuredeploy.json", .structured template template.pretty⟩] ∧
        Arm.sections? template = some s ∧
        Arm.Closed (Plan.ofGraph .arm g) a.dependencyCount s) ∧
    (∃ (a : Artifact) (template : Json) (s : CloudFormation.Sections),
      generate .cloudFormation g = .ok a ∧
        a.documents = [⟨"template.yaml", .structured template (Yaml.write template)⟩] ∧
        CloudFormation.sections? template = some s ∧
        CloudFormation.Closed (Plan.ofGraph .cloudFormation g) a.nameMap a.dependencyCount s) :=
  ⟨⟨_, _, _, rfl, rfl, Arm.sections?_template, Arm.closed_template⟩,
    ⟨_, _, _, rfl, rfl, CloudFormation.sections?_template, CloudFormation.closed_template⟩⟩

end CloudGraph

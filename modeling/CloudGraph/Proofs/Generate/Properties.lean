import CloudGraph.Proofs.Generate.Failure
import Mathlib.Data.List.Induction
import Mathlib.Order.Bounds.Basic

/-!
# Properties under converted keys

Targets write the keys of properties in a style of their own, and two keys of a resource may become
the same name. Of the properties, some are settings of the node and the others defaults of the
mapping.

**Theorem (`propertiesKeyed_settled`).** The names are the converted keys. A name takes the value of
the greatest setting that converts to it, and if there is none, of the least default. Whether a
default stands before or after a setting does not matter.

**Theorem (`attributes_eq_propertiesKeyed`).** Terraform keeps the lines of its attributes in a map
of its own, and checks the names as it goes. It comes to the same entries, each as a line, unless
a name is no attribute name.

* *One property* (`get?_addConverted`, `decider?_append_singleton`). A setting decides its name at
  once. A default does so only where nothing did before it.
* *All properties* (`get?_foldl_addConverted`). The properties go by increasing keys, so the last of
  some settings is the greatest, and the first of some defaults the least.
-/

namespace CloudGraph

namespace PlannedResource

variable {r : PlannedResource} {convert : String → String} {entries : List (String × Json)}
  {e : String × Json} {key name : String} {value : Json}

/-! ## Settings and defaults -/

/-- The defaults of the mapping; of equal keys the later counts. -/
def defaults (r : PlannedResource) : SortedMap Json :=
  .ofList (r.mapping.defaults.map fun d => (d.1, d.2.toJson))

theorem mem_keys_defaults : key ∈ r.defaults.keys ↔ key ∈ r.mapping.defaults.map (·.1) := by
  unfold defaults SortedMap.keys
  rw [SortedMap.entries_ofList, mem_keys_insertAll, List.map_map]
  simp

theorem get?_properties (r : PlannedResource) (key : String) :
    r.properties.get? key = (r.node.configuration.get? key).or (r.defaults.get? key) := by
  show lookup key r.properties.entries = _
  rw [entries_properties, lookup_insertAll, lookup_reverse r.node.configuration.increasing.nodup,
    ← SortedMap.entries_ofList]
  rfl

theorem mem_entries_properties :
    e ∈ r.properties.entries ↔
      (r.node.configuration.get? e.1).or (r.defaults.get? e.1) = some e.2 := by
  rw [← get?_properties]
  exact (lookup_eq_some_iff r.properties.increasing.nodup).symm

theorem isConfigured_iff : r.isConfigured key = true ↔ key ∈ r.node.configuration.keys :=
  SortedMap.isSome_get?_iff

theorem exists_mem_entries_properties
    (h : key ∈ r.node.configuration.keys ∨ key ∈ r.mapping.defaults.map (·.1)) :
    ∃ value, (key, value) ∈ r.properties.entries := by
  obtain ⟨e, he, rfl⟩ := List.mem_map.1 (r.mem_keys_properties.2 h)
  exact ⟨e.2, he⟩

/-! ## What decides a name -/

/-- The last of the settings that convert to a name, and if there is none, the first of the
defaults. -/
def decider? (r : PlannedResource) (convert : String → String) (name : String)
    (entries : List (String × Json)) : Option (String × Json) :=
  ((entries.filter fun e => convert e.1 = name).filter fun e => r.isConfigured e.1).getLast?.or
    (entries.filter fun e => convert e.1 = name).head?

theorem decider?_append_singleton (e : String × Json) :
    r.decider? convert name (entries ++ [e]) =
      if convert e.1 = name then
        if r.isConfigured e.1 then some e else (r.decider? convert name entries).or (some e)
      else r.decider? convert name entries := by
  unfold decider?
  by_cases hname : convert e.1 = name
  · cases hconfigured : r.isConfigured e.1 with
    | true => simp [List.filter_append, hname, hconfigured]
    | false =>
      simp [List.filter_append, hname, hconfigured, List.head?_append]
  · simp [List.filter_append, hname]

theorem get?_addConverted (m : SortedMap Json) (e : String × Json) (name : String) :
    (r.addConverted convert m e).get? name =
      if convert e.1 = name then
        if r.isConfigured e.1 then some e.2 else (m.get? name).or (some e.2)
      else m.get? name := by
  unfold addConverted
  by_cases hname : convert e.1 = name
  · subst hname
    cases hconfigured : r.isConfigured e.1 with
    | true => simp
    | false => cases hget : m.get? (convert e.1) <;> simp [hget]
  · rw [if_neg hname]
    split_ifs
    · rfl
    · exact m.get?_insert_ne (Ne.symm hname) e.2

/-- A name has the value of the entry that decides it. -/
theorem get?_foldl_addConverted (entries : List (String × Json)) (name : String) :
    (entries.foldl (r.addConverted convert) .empty).get? name =
      (r.decider? convert name entries).map (·.2) := by
  induction entries using List.reverseRecOn with
  | nil => rfl
  | append_singleton entries e ih =>
    rw [List.foldl_append, List.foldl_cons, List.foldl_nil, get?_addConverted,
      decider?_append_singleton, ih]
    split_ifs
    · rfl
    · cases r.decider? convert name entries <;> rfl
    · rfl

theorem decider?_eq_none_iff :
    r.decider? convert name entries = none ↔ ∀ e ∈ entries, convert e.1 ≠ name := by
  have hcandidates : r.decider? convert name entries = none ↔
      (entries.filter fun e => convert e.1 = name) = [] := by
    unfold decider?
    rw [Option.or_eq_none_iff, List.getLast?_eq_none_iff, List.head?_eq_none_iff,
      and_iff_right_iff_imp]
    intro hnil
    rw [hnil, List.filter_nil]
  rw [hcandidates, List.filter_eq_nil_iff]
  simp

/-- Among entries by increasing keys, the greatest setting or the least default. -/
theorem decider?_eq_some_iff (h : KeysIncrease entries) :
    r.decider? convert name entries = some e ↔
      (((e ∈ entries ∧ convert e.1 = name) ∧ r.isConfigured e.1 = true) ∧
        ∀ d ∈ entries, convert d.1 = name → r.isConfigured d.1 = true → d.1 ≤ e.1) ∨
      (∀ d ∈ entries, convert d.1 = name → r.isConfigured d.1 = false) ∧
        (e ∈ entries ∧ convert e.1 = name) ∧ ∀ d ∈ entries, convert d.1 = name → e.1 ≤ d.1 := by
  have hcandidates : KeysIncrease (entries.filter fun e => convert e.1 = name) := h.filter _
  unfold decider?
  rw [Option.or_eq_some_iff, List.getLast?_eq_none_iff,
    KeysIncrease.getLast?_eq_some_iff (hcandidates.filter _),
    KeysIncrease.head?_eq_some_iff hcandidates]
  simp only [List.filter_eq_nil_iff, List.mem_filter, decide_eq_true_eq, and_imp,
    Bool.not_eq_true]

/-! ## The law -/

/-- The value that a name takes: that of the greatest setting that converts to it, and if there is
none, that of the least default. -/
inductive Settles (r : PlannedResource) (convert : String → String) (name : String) : Json → Prop
  | setting {key : String} {value : Json}
    (hkey : IsGreatest {k | k ∈ r.node.configuration.keys ∧ convert k = name} key)
    (hvalue : r.node.configuration.get? key = some value) : Settles r convert name value
  | default {key : String} {value : Json}
    (hnone : ∀ k ∈ r.node.configuration.keys, convert k ≠ name)
    (hkey : IsLeast {k | k ∈ r.mapping.defaults.map (·.1) ∧ convert k = name} key)
    (hvalue : r.defaults.get? key = some value) : Settles r convert name value

theorem Settles.unique {value' : Json} (h : r.Settles convert name value)
    (h' : r.Settles convert name value') : value = value' := by
  cases h with
  | setting hkey hvalue =>
    cases h' with
    | setting hkey' hvalue' =>
      rw [hkey.unique hkey'] at hvalue
      exact Option.some.inj (hvalue.symm.trans hvalue')
    | default hnone' => exact absurd hkey.1.2 (hnone' _ hkey.1.1)
  | default hnone hkey hvalue =>
    cases h' with
    | setting hkey' => exact absurd hkey'.1.2 (hnone _ hkey'.1.1)
    | default _ hkey' hvalue' =>
      rw [hkey.unique hkey'] at hvalue
      exact Option.some.inj (hvalue.symm.trans hvalue')

theorem mem_keys_propertiesKeyed :
    name ∈ (r.propertiesKeyed convert).keys ↔ ∃ key ∈ r.properties.keys, convert key = name := by
  rw [← SortedMap.isSome_get?_iff, propertiesKeyed, get?_foldl_addConverted, Option.isSome_map,
    Option.isSome_iff_ne_none, Ne, decider?_eq_none_iff]
  simp [SortedMap.keys]

theorem settles_of_get? (h : (r.propertiesKeyed convert).get? name = some value) :
    r.Settles convert name value := by
  rw [propertiesKeyed, get?_foldl_addConverted] at h
  obtain ⟨e, hdecider, rfl⟩ := Option.map_eq_some_iff.1 h
  rcases (decider?_eq_some_iff r.properties.increasing).1 hdecider with
    ⟨⟨⟨he, hname⟩, hconfigured⟩, hgreatest⟩ | ⟨hnone, ⟨he, hname⟩, hleast⟩
  · have hvalue := mem_entries_properties.1 he
    rw [Option.or_of_isSome hconfigured] at hvalue
    refine .setting ⟨⟨isConfigured_iff.1 hconfigured, hname⟩, ?_⟩ hvalue
    rintro k ⟨hk, hkname⟩
    obtain ⟨v, hv⟩ := exists_mem_entries_properties (.inl hk)
    exact hgreatest (k, v) hv hkname (isConfigured_iff.2 hk)
  · have hsettings : ∀ k ∈ r.node.configuration.keys, convert k ≠ name := by
      intro k hk hkname
      obtain ⟨v, hv⟩ := exists_mem_entries_properties (.inl hk)
      exact Bool.false_ne_true ((hnone (k, v) hv hkname).symm.trans (isConfigured_iff.2 hk))
    have hvalue := mem_entries_properties.1 he
    rw [Option.not_isSome_iff_eq_none.1 (Bool.eq_false_iff.1 (hnone e he hname)),
      Option.none_or] at hvalue
    have hkey : e.1 ∈ r.mapping.defaults.map (·.1) :=
      mem_keys_defaults.1 (SortedMap.isSome_get?_iff.1 (by rw [hvalue]; rfl))
    refine .default hsettings ⟨⟨hkey, hname⟩, ?_⟩ hvalue
    rintro k ⟨hk, hkname⟩
    obtain ⟨v, hv⟩ := exists_mem_entries_properties (.inr hk)
    exact hleast (k, v) hv hkname

theorem get?_of_settles (h : r.Settles convert name value) :
    (r.propertiesKeyed convert).get? name = some value := by
  have hname : name ∈ (r.propertiesKeyed convert).keys := by
    rw [mem_keys_propertiesKeyed]
    cases h with
    | setting hkey => exact ⟨_, r.mem_keys_properties.2 (.inl hkey.1.1), hkey.1.2⟩
    | default _ hkey => exact ⟨_, r.mem_keys_properties.2 (.inr hkey.1.1), hkey.1.2⟩
  obtain ⟨value', hvalue'⟩ := Option.isSome_iff_exists.1 (SortedMap.isSome_get?_iff.2 hname)
  rw [hvalue', (settles_of_get? hvalue').unique h]

/-- **Properties under converted keys.** For every conversion, the names are the conversions of the
keys of defaults and settings. The value of a name is that of the greatest setting whose key
converts to it, and if there is none, that of the least such default. -/
theorem propertiesKeyed_settled (r : PlannedResource) (convert : String → String) :
    (∀ name, name ∈ (r.propertiesKeyed convert).keys ↔
      ∃ key, (key ∈ r.mapping.defaults.map (·.1) ∨ key ∈ r.node.configuration.keys) ∧
        convert key = name) ∧
    ∀ name value, (r.propertiesKeyed convert).get? name = some value ↔
      r.Settles convert name value := by
  refine ⟨fun name => ?_, fun name value => ⟨settles_of_get?, get?_of_settles⟩⟩
  rw [mem_keys_propertiesKeyed]
  refine exists_congr fun key => and_congr_left' ?_
  rw [r.mem_keys_properties, or_comm]

/-- Under their own keys no property gives way to another. -/
theorem propertiesKeyed_id (r : PlannedResource) : r.propertiesKeyed id = r.properties := by
  have hfold : ∀ (entries : List (String × Json)) (m : SortedMap Json),
      (entries.map (·.1)).Nodup → (∀ e ∈ entries, m.get? e.1 = none) →
        entries.foldl (r.addConverted id) m = entries.foldl (fun m e => m.insert e.1 e.2) m := by
    intro entries
    induction entries with
    | nil => exact fun _ _ _ => rfl
    | cons e rest ih =>
      intro m hnodup hnew
      obtain ⟨he, hrest⟩ := List.nodup_cons.1 hnodup
      obtain ⟨hnone, hnew⟩ := List.forall_mem_cons.1 hnew
      have hadd : r.addConverted id m e = m.insert e.1 e.2 := by
        unfold addConverted
        simp [hnone]
      rw [List.foldl_cons, List.foldl_cons, hadd]
      refine ih _ hrest fun d hd => ?_
      rw [m.get?_insert_ne, hnew d hd]
      exact fun heq => he (List.mem_map.2 ⟨d, hd, heq⟩)
  unfold propertiesKeyed
  rw [hfold _ _ r.properties.increasing.nodup fun _ _ => rfl]
  exact r.properties.ofList_entries

end PlannedResource

namespace Terraform

variable {r : PlannedResource} {entries : List (String × Json)} {e : String × Json}

/-! ## Attributes -/

/-- The line of each entry. -/
def linesOf (m : SortedMap Json) : Attributes :=
  m.mapEntries fun name value => name ++ " = " ++ Hcl.text 2 value

/-- A line is kept or replaced where the entry is. -/
theorem addAttribute_linesOf (h : namesAttribute e.1 = true) (m : SortedMap Json) :
    addAttribute r (linesOf m) e = .ok (linesOf (r.addConverted Text.snakeCase m e)) := by
  have hthere : ((linesOf m).get? (Text.snakeCase e.1)).isSome =
      (m.get? (Text.snakeCase e.1)).isSome := by
    rw [linesOf, SortedMap.get?_mapEntries, Option.isSome_map]
  unfold namesAttribute at h
  unfold addAttribute PlannedResource.addConverted
  dsimp only
  rw [hthere, if_neg (by simp [h])]
  split_ifs
  · rfl
  · rw [linesOf, linesOf, SortedMap.mapEntries_insert]

theorem foldlM_addAttribute_linesOf (h : ∀ e ∈ entries, namesAttribute e.1 = true)
    (m : SortedMap Json) :
    entries.foldlM (addAttribute r) (linesOf m) =
      .ok (linesOf (entries.foldl (r.addConverted Text.snakeCase) m)) := by
  induction entries generalizing m with
  | nil => rfl
  | cons e rest ih =>
    obtain ⟨he, hrest⟩ := List.forall_mem_cons.1 h
    rw [List.foldlM_cons, addAttribute_linesOf he]
    exact ih hrest _

/-- **Attributes.** Unless a key has no attribute name for its snake-case form, the attributes of a
resource are the entries of its properties under these forms, each written as a line. Else the first
such key is at fault. -/
theorem attributes_eq_propertiesKeyed (r : PlannedResource) :
    attributes r =
      match r.properties.keys.find? fun key =>
        !Hcl.isAttributeName (Text.snakeCase key).toList with
      | some key => .error (.invalidAttribute r.node.id key)
      | none => .ok ((r.propertiesKeyed Text.snakeCase).entries.map fun e =>
          e.1 ++ " = " ++ Hcl.text 2 e.2) := by
  unfold attributes
  split
  next key hkey =>
    rw [foldlM_addAttribute_eq_error hkey]
    rfl
  next hnone =>
    have hnames : ∀ e ∈ r.properties.entries, namesAttribute e.1 = true := by
      intro e he
      show Hcl.isAttributeName (Text.snakeCase e.1).toList = true
      simpa using List.find?_eq_none.1 hnone e.1 (List.mem_map_of_mem he)
    have hlines : r.properties.entries.foldlM (addAttribute r) .empty = _ :=
      foldlM_addAttribute_linesOf hnames .empty
    rw [hlines]
    show Except.ok ((linesOf (r.propertiesKeyed Text.snakeCase)).entries.map (·.2)) = _
    rw [linesOf, SortedMap.mapEntries, List.map_map]
    rfl

-- one default stands before the setting that hides it, the other behind
example :
    (attributes
      { name := "web"
        node := { Node.ofType "web" "aws-ec2" with
          configuration := .ofList [("port", .str "8080"), ("Size", .str "large")] }
        mapping := { resourceType := "x", defaults := [("Port", .text "80"), ("size", .text "s")] }
        dependsOn := [] }).toOption = some ["port = \"8080\"", "size = \"large\""] := by
  decide +kernel

end Terraform

end CloudGraph

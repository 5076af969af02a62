import CloudGraph.Graph.Reader
import CloudGraph.Proofs.Json.RoundTrip
import Mathlib.Data.List.Nodup

/-!
# Graphs that are read back

**Theorem (`Graph.ofJsonText_written`).** A graph comes back from the JSON that is written of it,
on one line or indented, if its node ids differ; otherwise the reader names the first id that an
earlier node has.

There are two conditions on the settings. None of them is a double, since a text need not name
the double it was written from, and none nests too deep for the reader. That every object in them
has its keys in order (`Graph.Canonical`) is no condition on a graph that was read
(`Graph.canonical_of_ofJsonText`).
-/

namespace CloudGraph

open Json

/-! ## Repeated ids -/

/-- The node at a place has the id of an earlier one. -/
def RepeatsAt (nodes : List Node) (i : Nat) (n : Node) : Prop :=
  nodes[i]? = some n ∧ n.id ∈ (nodes.take i).map (·.id)

namespace Graph

theorem duplicateIdAfter_eq_none_iff {seen : List String} {nodes : List Node} :
    duplicateIdAfter seen nodes = none ↔
      (nodes.map (·.id)).Nodup ∧ ∀ n ∈ nodes, n.id ∉ seen := by
  induction nodes generalizing seen with
  | nil => simp [duplicateIdAfter]
  | cons n rest ih =>
    unfold duplicateIdAfter
    by_cases h : n.id ∈ seen
    · simp [h]
    · rw [if_neg (by simpa using h), ih, List.map_cons, List.nodup_cons, List.forall_mem_cons]
      constructor
      · rintro ⟨hnodup, hnew⟩
        refine ⟨⟨fun hmem => ?_, hnodup⟩, h, fun m hm hseen => hnew m hm (.tail _ hseen)⟩
        obtain ⟨m, hm, heq⟩ := List.mem_map.mp hmem
        exact hnew m hm (heq ▸ List.mem_cons_self)
      · rintro ⟨⟨hnew, hnodup⟩, -, hseen⟩
        refine ⟨hnodup, fun m hm hmem => ?_⟩
        rcases List.mem_cons.mp hmem with heq | hmem
        · exact hnew (heq ▸ List.mem_map_of_mem hm)
        · exact hseen m hm hmem

/-- The id that is found stands at the first place where a node repeats an id. -/
theorem exists_place_of_duplicateIdAfter {seen : List String} {nodes : List Node} {id : String}
    (h : duplicateIdAfter seen nodes = some id) :
    ∃ i n, nodes[i]? = some n ∧ n.id = id ∧ id ∈ (nodes.take i).map (·.id) ++ seen ∧
      ∀ j m, nodes[j]? = some m → m.id ∈ (nodes.take j).map (·.id) ++ seen → i ≤ j := by
  induction nodes generalizing seen with
  | nil => cases h
  | cons n rest ih =>
    unfold duplicateIdAfter at h
    split_ifs at h with hseen
    · obtain rfl := Option.some.inj h
      exact ⟨0, n, rfl, rfl, by simpa using hseen, fun _ _ _ _ => Nat.zero_le _⟩
    · obtain ⟨i, m, hm, hid, hmem, hfirst⟩ := ih h
      have hmove : ∀ (ids : List String) (a : String),
          a ∈ ids ++ n.id :: seen ↔ a ∈ n.id :: ids ++ seen := by
        intro ids a
        simp only [List.mem_append, List.mem_cons]
        tauto
      refine ⟨i + 1, m, hm, hid, ?_, fun j m' hm' hmem' => ?_⟩
      · exact (hmove _ _).mp hmem
      · cases j with
        | zero =>
          obtain rfl := Option.some.inj hm'
          exact absurd (by simpa using hmem') hseen
        | succ j => exact Nat.succ_le_succ (hfirst j m' hm' ((hmove _ _).mpr hmem'))

theorem checked_of_nodup {g : Graph} (h : (g.nodes.map (·.id)).Nodup) : g.checked = .ok g := by
  have hnone : g.duplicateId? = none :=
    duplicateIdAfter_eq_none_iff.mpr ⟨h, fun _ _ => List.not_mem_nil⟩
  rw [checked, hnone]

theorem checked_of_not_nodup {g : Graph} (h : ¬ (g.nodes.map (·.id)).Nodup) :
    ∃ i n, RepeatsAt g.nodes i n ∧ (∀ j m, RepeatsAt g.nodes j m → i ≤ j) ∧
      g.checked = .error (.duplicateNode n.id) := by
  have hsome : g.duplicateId? ≠ none := fun hnone => h (duplicateIdAfter_eq_none_iff.mp hnone).1
  obtain ⟨id, hid⟩ := Option.ne_none_iff_exists'.mp hsome
  obtain ⟨i, n, hn, rfl, hmem, hfirst⟩ := exists_place_of_duplicateIdAfter hid
  rw [List.append_nil] at hmem
  refine ⟨i, n, ⟨hn, hmem⟩, fun j m hm => hfirst j m hm.1 (List.mem_append_left _ hm.2), ?_⟩
  rw [checked, hid]

end Graph

/-! ## Settings -/

namespace Graph

/-- Every object in a setting has its keys in order. -/
def Canonical (g : Graph) : Prop :=
  ∀ n ∈ g.nodes, CanonicalMembers n.configuration.entries

/-- No setting holds a double. -/
def Integral (g : Graph) : Prop :=
  ∀ n ∈ g.nodes, IntegralMembers n.configuration.entries

end Graph

theorem Raw.canonical_of_members? {level : Nat} {r : Raw} {ms : List (String × Json)}
    (h : r.members? level = some ms) : KeysIncrease ms ∧ CanonicalMembers ms := by
  unfold Raw.members? at h
  split at h
  next members hvalue =>
    cases h
    exact Raw.canonical_of_toJson? r hvalue
  next => cases h

theorem Node.canonical_of_ofDocument? {r : Raw} {n : Node} (h : Node.ofDocument? r = some n) :
    CanonicalMembers n.configuration.entries := by
  obtain ⟨fields, -, h⟩ := Option.bind_eq_some_iff.mp h
  obtain ⟨_, -, h⟩ := Option.bind_eq_some_iff.mp h
  obtain ⟨_, -, h⟩ := Option.bind_eq_some_iff.mp h
  obtain ⟨_, -, h⟩ := Option.bind_eq_some_iff.mp h
  obtain ⟨_, -, h⟩ := Option.bind_eq_some_iff.mp h
  obtain ⟨bag, hbag, h⟩ := Option.bind_eq_some_iff.mp h
  obtain ⟨_, -, h⟩ := Option.bind_eq_some_iff.mp h
  obtain rfl := Option.some.inj h
  show CanonicalMembers bag.entries
  unfold Document.optional at hbag
  split at hbag
  next d _ =>
    obtain ⟨ms, hms, rfl⟩ := Option.map_eq_some_iff.mp hbag
    obtain ⟨hkeys, hcanonical⟩ := Raw.canonical_of_members? hms
    have hentries : insertAll ms [] = ms := insertAll_of_keysIncrease hkeys
    rw [SortedMap.entries_ofList, hentries]
    exact hcanonical
  next =>
    cases hbag
    trivial

theorem exists_of_mem_mapM {α β : Type} {read : α → Option β} {xs : List α} {ys : List β}
    (h : xs.mapM read = some ys) : ∀ y ∈ ys, ∃ x ∈ xs, read x = some y := by
  induction xs generalizing ys with
  | nil => cases h; exact List.forall_mem_nil _
  | cons x xs ih =>
    rw [List.mapM_cons] at h
    obtain ⟨y, hy, h⟩ := Option.bind_eq_some_iff.mp h
    obtain ⟨zs, hzs, h⟩ := Option.bind_eq_some_iff.mp h
    cases h
    refine List.forall_mem_cons.mpr ⟨⟨x, List.mem_cons_self, hy⟩, fun z hz => ?_⟩
    obtain ⟨w, hw, hwz⟩ := ih hzs z hz
    exact ⟨w, .tail _ hw, hwz⟩

theorem Graph.canonical_of_ofDocument? {r : Raw} {g : Graph} (h : Graph.ofDocument? r = some g) :
    g.Canonical := by
  obtain ⟨fields, -, h⟩ := Option.bind_eq_some_iff.mp h
  obtain ⟨nodes, hnodes, h⟩ := Option.bind_eq_some_iff.mp h
  obtain ⟨edges, -, h⟩ := Option.bind_eq_some_iff.mp h
  obtain rfl := Option.some.inj h
  intro n hn
  unfold Document.optional at hnodes
  split at hnodes
  next d _ =>
    obtain ⟨items, -, hnodes⟩ := Option.bind_eq_some_iff.mp hnodes
    obtain ⟨r, -, hr⟩ := exists_of_mem_mapM hnodes n hn
    exact Node.canonical_of_ofDocument? hr
  next =>
    cases hnodes
    cases hn

/-- The reader makes canonical settings only. -/
theorem Graph.canonical_of_ofJsonText {text : String} {g : Graph} (h : ofJsonText text = .ok g) :
    g.Canonical := by
  unfold ofJsonText ofRaw checked at h
  split at h
  next r _ =>
    split at h
    next g' hg =>
      split at h
      next => cases h
      next =>
        cases h
        exact canonical_of_ofDocument? hg
    next => cases h
  next => cases h

/-! ## Records -/

theorem Category.ofName_name (c : Category) : ofName c.name = c := by
  cases c <;> decide

theorem Provider.ofName_name (p : Provider) : ofName p.name = p := by
  cases p <;> decide

theorem mapM_map_eq_some {α β : Type} {write : α → β} {read : β → Option α} {xs : List α}
    (h : ∀ x ∈ xs, read (write x) = some x) : (xs.map write).mapM read = some xs := by
  induction xs with
  | nil => rfl
  | cons x xs ih =>
    obtain ⟨hx, hxs⟩ := List.forall_mem_cons.mp h
    rw [List.map_cons, List.mapM_cons, hx, ih hxs]
    rfl

theorem Raw.members?_toRaw {bag : Configuration} (hcanonical : CanonicalMembers bag.entries)
    {level : Nat} (hdepth : (Json.obj bag.entries).depth + level ≤ maxDepth) :
    Raw.members? level (Json.obj bag.entries).toRaw = some bag.entries := by
  have hvalue : (Json.obj bag.entries).toRaw.toJson? (maxDepth - level) =
      some (.obj bag.entries) :=
    Raw.toJson?_toRaw (.obj bag.entries) ⟨bag.increasing, hcanonical⟩ (by omega)
  rw [Raw.members?, hvalue]

theorem Edge.ofDocument?_toRaw (e : Edge) : Edge.ofDocument? e.toJson.toRaw = some e := rfl

theorem Node.ofDocument?_toRaw {n : Node} (hcanonical : CanonicalMembers n.configuration.entries)
    (hdepth : (Json.obj n.configuration.entries).depth + configurationLevel ≤ maxDepth) :
    Node.ofDocument? n.toJson.toRaw = some n := by
  have hcategory : (Document.choice? (Raw.text (some n.category.name))).map Category.ofName =
      some n.category := congrArg some n.category.ofName_name
  have hprovider : (Document.choice? (Raw.text (some n.provider.name))).map Provider.ofName =
      some n.provider := congrArg some n.provider.ofName_name
  have hbag : (BagDocument.members? configurationLevel
      (Json.obj n.configuration.entries).toRaw).map SortedMap.ofList = some n.configuration := by
    show (Raw.members? _ _).map _ = _
    rw [Raw.members?_toRaw hcanonical hdepth, Option.map_some, SortedMap.ofList_entries]
  have hfields : Document.record? fieldNames n.toJson.toRaw = some [
    ("label", .text (some n.label)),
    ("configuration", (Json.obj n.configuration.entries).toRaw),
    ("provider", .text (some n.provider.name)),
    ("category", .text (some n.category.name)),
    ("componentType", .text (some n.componentType)),
    ("id", .text (some n.id))] := rfl
  rw [Node.ofDocument?, hfields]
  simp only [Document.required, Document.optional, Option.pure_def, Option.bind_eq_bind,
    Option.bind_some, lookup, String.reduceEq, ↓reduceIte, hcategory, hprovider, hbag]
  rfl

/-! ## Graphs -/

namespace Graph

theorem depth_le_itemsDepth {v : Json} {vs : List Json} (h : v ∈ vs) : v.depth ≤ itemsDepth vs := by
  induction vs with
  | nil => cases h
  | cons w vs ih =>
    rcases List.mem_cons.mp h with rfl | h
    · exact Nat.le_max_left ..
    · exact (ih h).trans (Nat.le_max_right ..)

/-- A bag of settings stands inside a node, the list of nodes and the graph. -/
theorem depth_configuration_le {g : Graph} {n : Node} (h : n ∈ g.nodes) :
    (Json.obj n.configuration.entries).depth + Node.configurationLevel ≤ g.toJson.depth := by
  have hnode : n.toJson.depth ≤ itemsDepth (g.nodes.map Node.toJson) :=
    depth_le_itemsDepth (List.mem_map_of_mem h)
  have hbag : (Json.obj n.configuration.entries).depth + 1 ≤ n.toJson.depth := by
    simp only [Node.toJson, depth, membersDepth]
    omega
  have hgraph : itemsDepth (g.nodes.map Node.toJson) + 2 ≤ g.toJson.depth := by
    simp only [toJson, depth, membersDepth]
    omega
  unfold Node.configurationLevel
  omega

theorem ofDocument?_toRaw {g : Graph} (hcanonical : g.Canonical)
    (hdepth : g.toJson.depth ≤ maxDepth) : ofDocument? g.toJson.toRaw = some g := by
  have hnodes : (itemsToRaw (g.nodes.map Node.toJson)).mapM Node.ofDocument? = some g.nodes := by
    rw [itemsToRaw_eq_map, List.map_map]
    exact mapM_map_eq_some fun n hn =>
      Node.ofDocument?_toRaw (hcanonical n hn) ((depth_configuration_le hn).trans hdepth)
  have hedges : (itemsToRaw (g.edges.map Edge.toJson)).mapM Edge.ofDocument? = some g.edges := by
    rw [itemsToRaw_eq_map, List.map_map]
    exact mapM_map_eq_some fun e _ => Edge.ofDocument?_toRaw e
  have hfields : Document.record? fieldNames g.toJson.toRaw = some [
    ("edges", .array (itemsToRaw (g.edges.map Edge.toJson))),
    ("nodes", .array (itemsToRaw (g.nodes.map Node.toJson)))] := rfl
  have hitems (rs : List Raw) : Document.items? (Raw.array rs) = some rs := rfl
  rw [ofDocument?, hfields]
  simp [Document.optional, lookup, hitems, hnodes, hedges]

theorem integralItems_map {α : Type} {write : α → Json} {xs : List α}
    (h : ∀ x ∈ xs, (write x).Integral) : IntegralItems (xs.map write) := by
  induction xs with
  | nil => trivial
  | cons x xs ih => exact ⟨h x List.mem_cons_self, ih fun y hy => h y (.tail _ hy)⟩

theorem integral_toJson {g : Graph} (h : g.Integral) : g.toJson.Integral := by
  have hnodes : IntegralItems (g.nodes.map Node.toJson) :=
    integralItems_map fun n hn => ⟨trivial, trivial, trivial, trivial, h n hn, trivial, trivial⟩
  have hedges : IntegralItems (g.edges.map Edge.toJson) :=
    integralItems_map fun e _ => ⟨trivial, trivial, trivial, trivial⟩
  exact ⟨hnodes, hedges, trivial⟩

theorem ofJsonText_of_spells {g : Graph} (hcanonical : g.Canonical)
    (hdepth : g.toJson.depth ≤ maxDepth) {text : String}
    (h : Spells (.value g.toJson) text.toList) : ofJsonText text = g.checked := by
  unfold ofJsonText Raw.ofText?
  rw [Raw.ofChars?_of_spells h]
  show ofRaw g.toJson.toRaw = _
  rw [ofRaw, ofDocument?_toRaw hcanonical hdepth]

/-- **Reading a written graph.** A graph whose settings hold no doubles and nest no deeper than
the reader goes is read from its JSON, on one line or indented, as it was if its node ids differ;
otherwise the id is reported of the first node that has the id of an earlier one. -/
theorem ofJsonText_written (g : Graph) (hcanonical : g.Canonical) (hintegral : g.Integral)
    (hdepth : g.toJson.depth ≤ 127) :
    ∀ text ∈ [g.toJson.compact, g.toJson.pretty],
      ((g.nodes.map (·.id)).Nodup → ofJsonText text = .ok g) ∧
      (¬ (g.nodes.map (·.id)).Nodup →
        ∃ i n, RepeatsAt g.nodes i n ∧ (∀ j m, RepeatsAt g.nodes j m → i ≤ j) ∧
          ofJsonText text = .error (.duplicateNode n.id)) := by
  intro text htext
  have hspells : Spells (.value g.toJson) text.toList := by
    rcases List.mem_pair.mp htext with rfl | rfl
    · rw [compact, String.toList_ofList]
      exact spells_compactChars _ (integral_toJson hintegral)
    · rw [pretty, String.toList_ofList]
      exact spells_prettyChars 0 _ (integral_toJson hintegral)
  rw [ofJsonText_of_spells hcanonical hdepth hspells]
  exact ⟨checked_of_nodup, checked_of_not_nodup⟩

theorem ofJsonText_written_hostile :
    ∃ (a b : Node) (edges : List Edge),
      a = {
        id := "a\"", componentType := "nobody-knows", category := .frontend, provider := .gcp
        configuration := SortedMap.empty.insert "\\\n" (.obj [
          ("", .arr [.num (.int (-0x8000000000000000) (by decide)), .obj [], .null]),
          ("é", .num (.int 0xFFFFFFFFFFFFFFFF (by decide))),
          ("😀", .arr [.str "\x01\x7f/\u2028", .bool false])])
        label := "[\t]" } ∧
      b = { id := "b", componentType := "aws-s3", label := " " } ∧
      edges = [⟨"e", "a", "ghost"⟩, ⟨"e", "a", "ghost"⟩] ∧
      ofJsonText (toJson ⟨[a, b], edges⟩).compact = .ok ⟨[a, b], edges⟩ ∧
      ofJsonText (toJson {
        nodes := ["b", "c", "c", "b"].map fun id => { id, componentType := "cdn" } }).pretty =
        .error (.duplicateNode "c") := by
  refine ⟨_, _, _, rfl, rfl, rfl, ?_, ?_⟩
  · refine (ofJsonText_written ⟨[_, _], _⟩ ?_ ?_ ?_ _ List.mem_cons_self).1 ?_
    · refine List.forall_mem_cons.mpr ⟨?_, List.forall_mem_singleton.mpr trivial⟩
      refine ⟨⟨?_, ⟨trivial, ⟨List.Pairwise.nil, trivial⟩, trivial, trivial⟩, trivial,
        ⟨trivial, trivial, trivial⟩, trivial⟩, trivial⟩
      unfold KeysIncrease
      decide +kernel
    · refine List.forall_mem_cons.mpr ⟨?_, List.forall_mem_singleton.mpr trivial⟩
      exact ⟨⟨⟨trivial, trivial, trivial, trivial⟩, trivial, ⟨trivial, trivial, trivial⟩, trivial⟩,
        trivial⟩
    · decide +kernel
    · decide +kernel
  · obtain ⟨i, n, ⟨hn, hmem⟩, hfirst, h⟩ :=
      (ofJsonText_written
        { nodes := ["b", "c", "c", "b"].map fun id => { id, componentType := "cdn" } }
        (by simp [Canonical, SortedMap.empty, CanonicalMembers])
        (by simp [Integral, SortedMap.empty, IntegralMembers]) (by decide +kernel) _
        (List.mem_cons_of_mem _ List.mem_cons_self)).2 (by decide +kernel)
    have hi : i ≤ 2 := hfirst 2 _ ⟨rfl, by decide +kernel⟩
    rcases i with _ | _ | _ | i
    · exact absurd hmem List.not_mem_nil
    · obtain rfl := Option.some.inj hn
      exact absurd hmem (by decide +kernel)
    · obtain rfl := Option.some.inj hn
      exact h
    · omega

end Graph

end CloudGraph

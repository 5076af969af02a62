import CloudGraph.Graph.Basic
import Mathlib.Data.Finset.Card
import Mathlib.Logic.Relation

/-!
# What the walk reaches

`Graph.reachableFrom` walks breadth first from a node. On every graph, with cycles, parallel
edges and edges to nodes that do not exist, it lists exactly the other nodes at the end of a
directed path (`mem_reachableFrom_iff`).

* *Sound*: what the walk lists was found by a step from the queue (`of_mem_walk`).
* *Complete*: an id that was seen waits in the queue, or all its steps lead to ids that were seen
  (`Expanded`). So when the queue is empty, no path leaves the ids that were seen. The walk gets
  that far because an id enters the queue once: the queue and the ids not yet seen (`remaining`)
  together fit the fuel.
-/

namespace CloudGraph.Graph

open Relation

/-- An edge leads from `a` to an existing node with the id `b`. -/
def Step (g : Graph) (a b : String) : Prop :=
  ∃ e ∈ g.edges, e.source = a ∧ e.target = b ∧ g.contains b = true

/-- A directed path through existing nodes. -/
def Path (g : Graph) : String → String → Prop := ReflTransGen g.Step

variable {g : Graph}

/-! ## Nodes by id -/

theorem id_of_node? {id : String} {n : Node} (h : g.node? id = some n) : n.id = id := by
  have hid := List.find?_some h
  exact eq_of_beq hid

theorem mem_of_node? {id : String} {n : Node} (h : g.node? id = some n) : n ∈ g.nodes :=
  List.mem_of_find?_eq_some h

theorem node?_of_mem (h : (g.nodes.map (·.id)).Nodup) {n : Node} (hn : n ∈ g.nodes) :
    g.node? n.id = some n := by
  have hfound : (g.node? n.id).isSome = true :=
    List.find?_isSome.2 ⟨n, hn, beq_self_eq_true n.id⟩
  obtain ⟨m, hm⟩ := Option.isSome_iff_exists.1 hfound
  rw [hm, List.inj_on_of_nodup_map h (mem_of_node? hm) hn (id_of_node? hm)]

theorem mem_outgoing_iff {a : String} {n : Node} :
    n ∈ g.outgoing a ↔ g.node? n.id = some n ∧ g.Step a n.id := by
  unfold outgoing Step contains
  rw [List.mem_filterMap]
  constructor
  · rintro ⟨e, he, hn⟩
    obtain ⟨he, hsource⟩ := List.mem_filter.1 he
    have hid := id_of_node? hn
    rw [← hid] at hn
    exact ⟨hn, e, he, eq_of_beq hsource, hid.symm, by rw [hn]; rfl⟩
  · rintro ⟨hn, e, he, hsource, htarget, -⟩
    exact ⟨e, List.mem_filter.2 ⟨he, beq_iff_eq.2 hsource⟩, htarget ▸ hn⟩

theorem exists_mem_outgoing {a b : String} (h : g.Step a b) : ∃ n ∈ g.outgoing a, n.id = b := by
  obtain ⟨n, hn⟩ := Option.isSome_iff_exists.1 h.choose_spec.2.2.2
  obtain rfl := id_of_node? hn
  exact ⟨n, mem_outgoing_iff.2 ⟨hn, h⟩, rfl⟩

/-! ## Unseen nodes -/

theorem of_mem_unseen {seen : List String} {nodes : List Node} {n : Node}
    (h : n ∈ unseen seen nodes) : n ∈ nodes ∧ n.id ∉ seen := by
  induction nodes generalizing seen with
  | nil => exact absurd h List.not_mem_nil
  | cons m nodes ih =>
    unfold unseen at h
    split_ifs at h with hseen
    · exact (ih h).imp_left (List.mem_cons_of_mem m)
    · rw [List.contains_iff_mem] at hseen
      rcases List.mem_cons.1 h with rfl | h
      · exact ⟨List.mem_cons_self .., hseen⟩
      · obtain ⟨hn, hnew⟩ := ih h
        exact ⟨List.mem_cons_of_mem m hn, fun hs => hnew (List.mem_cons_of_mem m.id hs)⟩

theorem nodup_unseen (seen : List String) (nodes : List Node) :
    ((unseen seen nodes).map (·.id)).Nodup := by
  induction nodes generalizing seen with
  | nil => exact List.nodup_nil
  | cons m nodes ih =>
    unfold unseen
    split_ifs
    · exact ih seen
    · refine List.nodup_cons.2 ⟨fun h => ?_, ih _⟩
      obtain ⟨n, hn, hid⟩ := List.mem_map.1 h
      exact (of_mem_unseen hn).2 (hid ▸ List.mem_cons_self ..)

theorem seen_or_unseen {seen : List String} {nodes : List Node} {n : Node} (h : n ∈ nodes) :
    n.id ∈ seen ∨ n.id ∈ (unseen seen nodes).map (·.id) := by
  induction nodes generalizing seen with
  | nil => exact absurd h List.not_mem_nil
  | cons m nodes ih =>
    unfold unseen
    split_ifs with hseen
    · rcases List.mem_cons.1 h with rfl | h
      · exact .inl (List.contains_iff_mem.1 hseen)
      · exact ih h
    · rw [List.map_cons]
      rcases List.mem_cons.1 h with rfl | h
      · exact .inr (List.mem_cons_self ..)
      · rcases ih h with hn | hn
        · rcases List.mem_cons.1 hn with heq | hn
          · exact .inr (heq ▸ List.mem_cons_self ..)
          · exact .inl hn
        · exact .inr (List.mem_cons_of_mem _ hn)

/-! ## The budget -/

/-- The number of ids not yet seen. -/
def remaining (g : Graph) (seen : List String) : Nat :=
  ((g.nodes.map (·.id)).toFinset \ seen.toFinset).card

theorem remaining_le (g : Graph) (seen : List String) : g.remaining seen ≤ g.nodes.length := by
  refine (Finset.card_le_card Finset.sdiff_subset).trans ?_
  exact (List.toFinset_card_le _).trans (List.length_map ..).le

theorem length_add_remaining {seen fresh : List String} (hnodup : fresh.Nodup)
    (hfresh : ∀ a ∈ fresh, a ∈ g.nodes.map (·.id) ∧ a ∉ seen) :
    fresh.length + g.remaining (fresh ++ seen) = g.remaining seen := by
  have hsub : fresh.toFinset ⊆ (g.nodes.map (·.id)).toFinset \ seen.toFinset := fun a ha => by
    have := hfresh a (List.mem_toFinset.1 ha)
    exact Finset.mem_sdiff.2 ⟨List.mem_toFinset.2 this.1, mt List.mem_toFinset.1 this.2⟩
  have hrest : (g.nodes.map (·.id)).toFinset \ (fresh ++ seen).toFinset =
      ((g.nodes.map (·.id)).toFinset \ seen.toFinset) \ fresh.toFinset := by
    rw [List.toFinset_append, Finset.union_comm, sdiff_sdiff_left]
    rfl
  unfold remaining
  rw [hrest, ← List.toFinset_card_of_nodup hnodup, Nat.add_comm]
  exact Finset.card_sdiff_add_card_eq_card hsub

/-! ## Soundness -/

theorem of_mem_walk {fuel : Nat} {seen queue : List String} {n : Node}
    (h : n ∈ g.walk fuel seen queue) :
    g.node? n.id = some n ∧ n.id ∉ seen ∧ ∃ q ∈ queue, TransGen g.Step q n.id := by
  induction fuel generalizing seen queue with
  | zero => exact absurd h List.not_mem_nil
  | succ fuel ih =>
    cases queue with
    | nil => exact absurd h List.not_mem_nil
    | cons current queue =>
      rcases List.mem_append.1 h with h | h
      · obtain ⟨hout, hnew⟩ := of_mem_unseen h
        obtain ⟨hn, hstep⟩ := mem_outgoing_iff.1 hout
        exact ⟨hn, hnew, current, List.mem_cons_self .., .single hstep⟩
      · obtain ⟨hn, hnew, q, hq, hpath⟩ := ih h
        refine ⟨hn, fun hseen => hnew (List.mem_append_right _ hseen), ?_⟩
        rcases List.mem_append.1 hq with hq | hq
        · exact ⟨q, List.mem_cons_of_mem _ hq, hpath⟩
        · obtain ⟨m, hm, rfl⟩ := List.mem_map.1 hq
          have hstep := (mem_outgoing_iff.1 (of_mem_unseen hm).1).2
          exact ⟨current, List.mem_cons_self .., .head hstep hpath⟩

/-! ## Completeness -/

/-- An id that was seen waits in the queue, or what it leads to was seen. -/
def Expanded (g : Graph) (seen queue : List String) : Prop :=
  ∀ v ∈ seen, v ∈ queue ∨ ∀ w, g.Step v w → w ∈ seen

/-- With nothing left in the queue, no path leaves the ids that were seen. -/
theorem Expanded.mem_of_path {seen : List String} (h : g.Expanded seen []) {s a : String}
    (hs : s ∈ seen) (hpath : g.Path s a) : a ∈ seen := by
  induction hpath with
  | refl => exact hs
  | tail _ hstep ih => exact (h _ ih).resolve_left List.not_mem_nil _ hstep

/-- Taking an id from the queue puts the unseen ones that it leads to at the end. -/
theorem Expanded.advance {seen queue : List String} {current : String}
    (h : g.Expanded seen (current :: queue)) :
    let ids := (unseen seen (g.outgoing current)).map (·.id)
    g.Expanded (ids ++ seen) (queue ++ ids) := by
  intro ids v hv
  rcases List.mem_append.1 hv with hv | hv
  · exact .inl (List.mem_append_right _ hv)
  · rcases h v hv with hv | hv
    · rcases List.mem_cons.1 hv with rfl | hv
      · refine .inr fun w hstep => ?_
        obtain ⟨n, hn, rfl⟩ := exists_mem_outgoing hstep
        exact List.mem_append.2 (seen_or_unseen hn).symm
      · exact .inl (List.mem_append_left _ hv)
    · exact .inr fun w hstep => List.mem_append_right _ (hv w hstep)

/-- What a step puts into the queue it takes from the ids not yet seen. -/
theorem length_ids_add_remaining (g : Graph) (seen : List String) (current : String) :
    let ids := (unseen seen (g.outgoing current)).map (·.id)
    ids.length + g.remaining (ids ++ seen) = g.remaining seen := by
  intro ids
  refine length_add_remaining (nodup_unseen seen _) fun a ha => ?_
  obtain ⟨n, hn, rfl⟩ := List.mem_map.1 ha
  obtain ⟨hout, hnew⟩ := of_mem_unseen hn
  exact ⟨List.mem_map_of_mem (mem_of_node? (mem_outgoing_iff.1 hout).1), hnew⟩

theorem mem_walk_of_path {fuel : Nat} {seen queue : List String}
    (hfuel : queue.length + g.remaining seen ≤ fuel) (hexp : g.Expanded seen queue) {s : String}
    (hs : s ∈ seen) {n : Node} (hn : g.node? n.id = some n) (hnew : n.id ∉ seen)
    (hpath : g.Path s n.id) : n ∈ g.walk fuel seen queue := by
  induction fuel generalizing seen queue with
  | zero =>
    obtain rfl : queue = [] := List.eq_nil_of_length_eq_zero (by omega)
    exact absurd (hexp.mem_of_path hs hpath) hnew
  | succ fuel ih =>
    cases queue with
    | nil => exact absurd (hexp.mem_of_path hs hpath) hnew
    | cons current queue =>
      let fresh := unseen seen (g.outgoing current)
      let ids := fresh.map (·.id)
      have hbudget : ids.length + g.remaining (ids ++ seen) = g.remaining seen :=
        g.length_ids_add_remaining seen current
      show n ∈ fresh ++ g.walk fuel (ids ++ seen) (queue ++ ids)
      by_cases hfound : n.id ∈ ids
      · obtain ⟨m, hm, hid⟩ := List.mem_map.1 hfound
        have hm' := (mem_outgoing_iff.1 (of_mem_unseen hm).1).1
        rw [hid, hn] at hm'
        exact List.mem_append_left _ (Option.some.inj hm' ▸ hm)
      · refine List.mem_append_right _ (ih ?_ hexp.advance (List.mem_append_right _ hs) ?_)
        · rw [List.length_cons] at hfuel
          rw [List.length_append]
          omega
        · exact fun h => (List.mem_append.1 h).elim hfound hnew

theorem mem_reachableFrom_iff {start : String} {n : Node} :
    n ∈ g.reachableFrom start ↔ g.node? n.id = some n ∧ n.id ≠ start ∧ g.Path start n.id := by
  unfold reachableFrom
  constructor
  · intro h
    obtain ⟨hn, hnew, q, hq, hpath⟩ := of_mem_walk h
    rw [List.mem_singleton] at hnew
    rw [List.mem_singleton.1 hq] at hpath
    exact ⟨hn, hnew, hpath.to_reflTransGen⟩
  · rintro ⟨hn, hne, hpath⟩
    refine mem_walk_of_path ?_ (fun v hv => .inl hv) (List.mem_singleton_self start) hn
      (mt List.mem_singleton.1 hne) hpath
    have := g.remaining_le [start]
    rw [List.length_singleton]
    omega

/-- The search fails just if no path leads to another node that satisfies the predicate. -/
theorem reachable?_eq_none_iff {start : String} {p : Node → Bool} :
    g.reachable? start p = none ↔
      ∀ n, g.node? n.id = some n → n.id ≠ start → p n = true → ¬ g.Path start n.id := by
  unfold reachable?
  rw [List.find?_eq_none]
  refine forall_congr' fun n => ?_
  rw [mem_reachableFrom_iff]
  tauto

end CloudGraph.Graph

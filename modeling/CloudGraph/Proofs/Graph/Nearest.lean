import CloudGraph.Proofs.Graph.Reachability
import Mathlib.Data.Nat.Find

/-!
# The search finds a nearest node

**Theorem (`reachable?_nearest`).** On a graph with distinct ids, whatever its edges, the search
from a start ends. It finds nothing just if no directed path leads to another node that satisfies
the predicate, and else such a node with the fewest edges from the start.

* *It ends.* `Search` is the search as a loop that goes on until the queue is empty or a node is
  found. It has one outcome (`Search.unique`), and the walk with its bounded number of steps comes
  to it (`search_walk`).
* *Nearest first.* The queue holds two layers of ids, those at some distance from the start in front
  of those one edge further, and all ids up to the first distance were seen (`Layered`). A step
  keeps this, and an empty first layer leaves room for the next. So the walk lists nodes by their
  distance (`pairwise_noFarther_walk`).
-/

namespace CloudGraph.Graph

open Relation

/-- A directed path of `k` edges through existing nodes. -/
inductive Chain (g : Graph) : Nat → String → String → Prop
  | refl (a : String) : Chain g 0 a a
  | tail {k : Nat} {a b c : String} (h : Chain g k a b) (hstep : g.Step b c) : Chain g (k + 1) a c

/-- The search without a bound on its steps. An id is taken from the queue, and the unseen nodes
that it leads to count as seen. One of them that satisfies the predicate is found, or they all
wait in the queue. -/
inductive Search (g : Graph) (p : Node → Bool) : List String → List String → Option Node → Prop
  | exhausted (seen : List String) : Search g p seen [] none
  | found {seen queue : List String} {current : String} {n : Node}
    (h : (unseen seen (g.outgoing current)).find? p = some n) :
    Search g p seen (current :: queue) (some n)
  | onward {seen queue : List String} {current : String} {outcome : Option Node}
    (hnone : (unseen seen (g.outgoing current)).find? p = none)
    (h : Search g p ((unseen seen (g.outgoing current)).map (·.id) ++ seen)
      (queue ++ (unseen seen (g.outgoing current)).map (·.id)) outcome) :
    Search g p seen (current :: queue) outcome

variable {g : Graph} {p : Node → Bool} {start : String} {seen queue : List String}

theorem path_iff_exists_chain {a b : String} : g.Path a b ↔ ∃ k, g.Chain k a b := by
  constructor
  · intro h
    induction h with
    | refl => exact ⟨0, .refl a⟩
    | tail _ hstep ih => exact ih.imp' (· + 1) fun _ h => .tail h hstep
  · rintro ⟨k, h⟩
    induction h with
    | refl => exact .refl
    | tail _ hstep ih => exact ih.tail hstep

theorem exists_least_chain {a b : String} (h : g.Path a b) :
    ∃ k, g.Chain k a b ∧ ∀ j, g.Chain j a b → k ≤ j := by
  classical
  have hsome := path_iff_exists_chain.1 h
  exact ⟨Nat.find hsome, Nat.find_spec hsome, fun j hj => Nat.find_min' hsome hj⟩

/-! ## The search ends -/

theorem Search.unique {outcome outcome' : Option Node} (h : g.Search p seen queue outcome)
    (h' : g.Search p seen queue outcome') : outcome = outcome' := by
  induction h with
  | exhausted => cases h' with | exhausted => rfl
  | found hfound =>
    cases h' with
    | found hfound' => exact hfound.symm.trans hfound'
    | onward hnone => exact absurd (hfound.symm.trans hnone) (Option.some_ne_none _)
  | onward hnone _ ih =>
    cases h' with
    | found hfound => exact absurd (hfound.symm.trans hnone) (Option.some_ne_none _)
    | onward _ h' => exact ih h'

/-- With steps for the queue and for each id not yet seen, the walk ends as the search does. -/
theorem search_walk {fuel : Nat} (hfuel : queue.length + g.remaining seen ≤ fuel) :
    g.Search p seen queue ((g.walk fuel seen queue).find? p) := by
  induction fuel generalizing seen queue with
  | zero =>
    obtain rfl : queue = [] := List.eq_nil_of_length_eq_zero (by omega)
    exact .exhausted seen
  | succ fuel ih =>
    cases queue with
    | nil => exact .exhausted seen
    | cons current queue =>
      have hbudget := g.length_ids_add_remaining seen current
      rw [walk, List.find?_append]
      cases hfresh : (unseen seen (g.outgoing current)).find? p with
      | some n => exact .found hfresh
      | none =>
        refine .onward hfresh (ih ?_)
        rw [List.length_cons] at hfuel
        rw [List.length_append]
        omega

/-! ## Layers -/

/-- The queue in two parts: `front` at a distance of `k` edges from the start, and `back` one edge
further. -/
structure Layered (g : Graph) (start : String) (k : Nat) (seen front back : List String) :
    Prop where
  covered : ∀ j ≤ k, ∀ v, g.Chain j start v → v ∈ seen
  first : ∀ v ∈ front, g.Chain k start v
  second : ∀ v ∈ back, g.Chain (k + 1) start v ∧ ∀ j ≤ k, ¬ g.Chain j start v
  expanded : g.Expanded seen (front ++ back)

theorem layered_start (g : Graph) (start : String) : g.Layered start 0 [start] [start] [] where
  covered := by
    intro j hj v h
    obtain rfl := Nat.le_zero.1 hj
    cases h
    exact List.mem_singleton_self start
  first := by
    intro v hv
    obtain rfl := List.mem_singleton.1 hv
    exact .refl v
  second := List.forall_mem_nil _
  expanded := fun _ hv => .inl hv

namespace Layered

variable {k : Nat} {front back : List String} {current : String}

/-- When the first layer is done, the second one takes its place. -/
theorem promote (h : g.Layered start k seen [] back) : g.Layered start (k + 1) seen back [] where
  covered := by
    intro j hj v hchain
    rcases Nat.le_succ_iff.1 hj with hj | rfl
    · exact h.covered j hj v hchain
    · cases hchain with
      | @tail _ _ u _ hchain hstep =>
        -- the last id but one is no nearer than the queue allows, so it does not wait any more
        refine (h.expanded u (h.covered k le_rfl u hchain)).elim (fun hu => ?_) fun hu => hu v hstep
        exact absurd hchain ((h.second u hu).2 k le_rfl)
  first := fun v hv => (h.second v hv).1
  second := List.forall_mem_nil _
  expanded := by
    rw [List.append_nil]
    exact h.expanded

/-- The id in front of the queue is in the first layer, after a promotion if need be. -/
theorem exists_cons (h : g.Layered start k seen front back)
    (hqueue : front ++ back = current :: queue) :
    ∃ k front back, g.Layered start k seen (current :: front) back ∧ queue = front ++ back := by
  cases front with
  | nil =>
    rw [List.nil_append] at hqueue
    subst hqueue
    exact ⟨k + 1, queue, [], h.promote, (List.append_nil queue).symm⟩
  | cons _ front =>
    obtain ⟨rfl, rfl⟩ := List.cons.inj hqueue
    exact ⟨k, front, back, h, rfl⟩

/-- What is still unseen is more than one layer away. -/
theorem lt_of_chain (h : g.Layered start k seen front back) {v : String} (hnew : v ∉ seen) {j : Nat}
    (hchain : g.Chain j start v) : k < j := by
  by_contra hle
  exact hnew (h.covered j (Nat.le_of_not_lt hle) v hchain)

theorem chain_of_mem_unseen (h : g.Layered start k seen (current :: front) back) {n : Node}
    (hn : n ∈ unseen seen (g.outgoing current)) : g.Chain (k + 1) start n.id :=
  .tail (h.first current List.mem_cons_self) (mem_outgoing_iff.1 (of_mem_unseen hn).1).2

theorem advance (h : g.Layered start k seen (current :: front) back) :
    let ids := (unseen seen (g.outgoing current)).map (·.id)
    g.Layered start k (ids ++ seen) front (back ++ ids) := by
  intro ids
  refine ⟨fun j hj v hchain => ?_, fun v hv => ?_, fun v hv => ?_, ?_⟩
  · exact List.mem_append_right _ (h.covered j hj v hchain)
  · exact h.first v (List.mem_cons_of_mem current hv)
  · rcases List.mem_append.1 hv with hv | hv
    · exact h.second v hv
    · obtain ⟨n, hn, rfl⟩ := List.mem_map.1 hv
      refine ⟨h.chain_of_mem_unseen hn, fun j hj hchain => ?_⟩
      exact absurd (h.lt_of_chain (of_mem_unseen hn).2 hchain) (Nat.not_lt.2 hj)
  · rw [← List.append_assoc]
    exact h.expanded.advance

end Layered

/-! ## Nearest first -/

/-- Whatever path leads to `n`, one of no more edges leads to `m`. -/
def NoFarther (g : Graph) (start : String) (m n : Node) : Prop :=
  ∀ j, g.Chain j start n.id → ∃ i ≤ j, g.Chain i start m.id

/-- What a step finds is no farther than anything that is still unseen. -/
theorem Layered.noFarther {k : Nat} {front back : List String} {current : String}
    (h : g.Layered start k seen (current :: front) back) {m n : Node}
    (hm : m ∈ unseen seen (g.outgoing current)) (hnew : n.id ∉ seen) : g.NoFarther start m n :=
  fun _ hchain => ⟨k + 1, h.lt_of_chain hnew hchain, h.chain_of_mem_unseen hm⟩

theorem pairwise_noFarther_walk {fuel k : Nat} {front back : List String}
    (h : g.Layered start k seen front back) :
    (g.walk fuel seen (front ++ back)).Pairwise (g.NoFarther start) := by
  induction fuel generalizing k seen front back with
  | zero => exact .nil
  | succ fuel ih =>
    cases hqueue : front ++ back with
    | nil => exact .nil
    | cons current queue =>
      obtain ⟨k, front, back, h, rfl⟩ := h.exists_cons hqueue
      rw [walk]
      refine List.pairwise_append.2 ⟨?_, ?_, fun m hm n hn => ?_⟩
      · exact List.pairwise_of_forall_mem_list fun m hm n hn =>
          h.noFarther hm (of_mem_unseen hn).2
      · rw [List.append_assoc]
        exact ih h.advance
      · exact h.noFarther hm fun hseen =>
          (of_mem_walk hn).2.1 (List.mem_append_right _ hseen)

theorem pairwise_noFarther_reachableFrom (g : Graph) (start : String) :
    (g.reachableFrom start).Pairwise (g.NoFarther start) :=
  pairwise_noFarther_walk (g.layered_start start)

theorem noFarther_of_reachable? {n m : Node} (h : g.reachable? start p = some n)
    (hm : m ∈ g.reachableFrom start) (hp : p m = true) : m = n ∨ g.NoFarther start n m := by
  obtain ⟨-, before, after, heq, hbefore⟩ := List.find?_eq_some_iff_append.1 h
  have hsorted := g.pairwise_noFarther_reachableFrom start
  rw [heq] at hm hsorted
  rcases List.mem_append.1 hm with hm | hm
  · exact absurd hp (by simpa using hbefore m hm)
  · rcases List.mem_cons.1 hm with rfl | hm
    · exact .inl rfl
    · exact .inr ((List.pairwise_cons.1 (List.pairwise_append.1 hsorted).2.1).1 m hm)

/-- **The search finds a nearest node.** It ends on every graph with distinct ids. It finds nothing
just if no path leads to another node that satisfies the predicate. What it finds is such a node,
and no path to such a node is shorter than the shortest to this one. -/
theorem reachable?_nearest (h : (g.nodes.map (·.id)).Nodup) (start : String) (p : Node → Bool) :
    (∀ outcome, g.Search p [start] [start] outcome ↔ outcome = g.reachable? start p) ∧
    (g.reachable? start p = none ↔
      ∀ n ∈ g.nodes, n.id ≠ start → p n = true → ¬ g.Path start n.id) ∧
    ∀ n, g.reachable? start p = some n →
      n ∈ g.nodes ∧ n.id ≠ start ∧ p n = true ∧
        ∃ k, g.Chain k start n.id ∧
          ∀ m ∈ g.nodes, m.id ≠ start → p m = true → ∀ j, g.Chain j start m.id → k ≤ j := by
  have hsearch : g.Search p [start] [start] (g.reachable? start p) := by
    refine search_walk ?_
    have := g.remaining_le [start]
    rw [List.length_singleton]
    omega
  refine ⟨fun outcome => ⟨fun hother => hother.unique hsearch, fun heq => heq ▸ hsearch⟩, ?_, ?_⟩
  · rw [reachable?_eq_none_iff]
    exact ⟨fun hnone n hn => hnone n (node?_of_mem h hn), fun hnone n hn => hnone n (mem_of_node? hn)⟩
  · intro n hfound
    obtain ⟨hnode, hne, hpath⟩ := mem_reachableFrom_iff.1 (List.mem_of_find?_eq_some hfound)
    refine ⟨mem_of_node? hnode, hne, List.find?_some hfound, ?_⟩
    obtain ⟨k, hchain, hleast⟩ := exists_least_chain hpath
    refine ⟨k, hchain, fun m hm hmne hp j hmchain => ?_⟩
    have hreached : m ∈ g.reachableFrom start :=
      mem_reachableFrom_iff.2 ⟨node?_of_mem h hm, hmne, path_iff_exists_chain.2 ⟨j, hmchain⟩⟩
    rcases noFarther_of_reachable? hfound hreached hp with rfl | hnear
    · exact hleast j hmchain
    · obtain ⟨i, hij, hi⟩ := hnear j hmchain
      exact (hleast i hi).trans hij

theorem reachable?_nearest_unlisted_start :
    ∃ g : Graph,
      g = {
        nodes := [Node.ofType "far" "aws-rds", Node.ofType "web" "aws-ec2",
          Node.ofType "api" "aws-ec2", Node.ofType "db" "aws-rds"]
        edges := [⟨"e1", "out", "out"⟩, ⟨"e2", "ghost", "far"⟩, ⟨"e3", "out", "web"⟩,
          ⟨"e4", "web", "api"⟩, ⟨"e5", "api", "far"⟩, ⟨"e6", "api", "web"⟩, ⟨"e7", "web", "db"⟩,
          ⟨"e8", "web", "db"⟩, ⟨"e9", "db", "db"⟩] } ∧
      (g.nodes.map (·.id)).Nodup ∧
      g.Search (·.hasRole .firewall) ["out"] ["out"] none ∧
      (∀ n ∈ g.nodes, n.id ≠ "out" → n.hasRole .firewall = true → ¬ g.Path "out" n.id) ∧
      ∃ n, g.reachable? "out" (·.hasRole .database) = some n ∧ n.id = "db" ∧
        ∃ k, g.Chain k "out" n.id ∧ ∀ m ∈ g.nodes, m.id ≠ "out" → m.hasRole .database = true →
          ∀ j, g.Chain j "out" m.id → k ≤ j := by
  refine ⟨_, rfl, by decide +kernel, ?_, ?_, ?_⟩
  · exact ((reachable?_nearest (by decide +kernel) "out" (·.hasRole .firewall)).1 none).2
      (Option.isNone_iff_eq_none.1 (by decide +kernel)).symm
  · exact (reachable?_nearest (by decide +kernel) "out" (·.hasRole .firewall)).2.1.1
      (Option.isNone_iff_eq_none.1 (by decide +kernel))
  · refine ((Option.map_eq_some_iff (f := fun n : Node => n.id) (b := "db")).1 ?_).imp
      fun n ⟨hn, hid⟩ => ⟨hn, hid, ?_⟩
    · decide +kernel
    · exact ((reachable?_nearest (by decide +kernel) "out" (·.hasRole .database)).2.2 n hn).2.2.2

end CloudGraph.Graph

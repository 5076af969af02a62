import CloudGraph.Proofs.Check.Gate
import CloudGraph.Proofs.Rule.Evaluation

/-!
# Graphs that take the same steps

Two graphs may have the same nodes and different edges, and yet each step from a node leads to the
same nodes in the same order, apart from steps that are taken once more at the end
(`Graph.Retraces`). What can an analysis see of the difference?

* **A walk sees none** (`Retraces.walk`). A node that was met is not new a second time.
* **A count of what a node feeds sees none** (`fanOutTargets_eq`), since it counts each node once.
* **The question whether a node has an edge** may see it. Where it has the same answer for the
  nodes that count, the answers of the isolation pattern and of the orphan check are the same
  (`offenders_isolation_eq`, `orphanChecks_eq_of_touched`).

All else reads nothing but the nodes. So two runs of the checks differ at most in the orphan check
(`Retraces.forall₂_runChecks`).
-/

namespace CloudGraph

namespace Graph

/-- The graphs have the same nodes, and the steps of the second from a node are those of the
first, some of them perhaps repeated at the end. -/
structure Retraces (g g' : Graph) : Prop where
  nodes : g'.nodes = g.nodes
  outgoing : ∀ n ∈ g.nodes, ∃ again, g'.outgoing n.id = g.outgoing n.id ++ again ∧
    again ⊆ g.outgoing n.id

/-- Some edge starts or ends at the node. -/
def isTouched (g : Graph) (n : Node) : Bool :=
  g.edges.any (·.touches n.id)

/-- Nodes that were seen, or have the id of a node before them, are not new. -/
theorem unseen_append_of_known {seen : List String} {nodes again : List Node}
    (h : ∀ m ∈ again, m.id ∈ seen ∨ m.id ∈ nodes.map (·.id)) :
    unseen seen (nodes ++ again) = unseen seen nodes := by
  induction nodes generalizing seen with
  | nil =>
    rw [List.nil_append]
    induction again with
    | nil => rfl
    | cons m again ih =>
      obtain ⟨hm, hagain⟩ := List.forall_mem_cons.1 h
      have hseen : seen.contains m.id = true := by simpa using hm
      simp only [unseen, hseen, if_true]
      exact ih hagain
  | cons n nodes ih =>
    simp only [List.cons_append, unseen]
    split_ifs with hseen
    · apply ih
      intro m hm
      rcases h m hm with hknown | hknown
      · exact .inl hknown
      · rcases List.mem_cons.1 hknown with heq | hknown
        · exact .inl (heq ▸ List.contains_iff_mem.1 hseen)
        · exact .inr hknown
    · congr 1
      apply ih
      intro m hm
      rcases h m hm with hknown | hknown
      · exact .inl (List.mem_cons_of_mem _ hknown)
      · rcases List.mem_cons.1 hknown with heq | hknown
        · exact .inl (heq ▸ List.mem_cons_self)
        · exact .inr hknown

namespace Retraces

variable {g g' : Graph}

/-- The two walks see the same new nodes at each step, as long as they go from nodes to nodes. -/
theorem walk (h : g.Retraces g') {fuel : Nat} {seen queue : List String}
    (hqueue : ∀ a ∈ queue, ∃ n ∈ g.nodes, n.id = a) :
    g'.walk fuel seen queue = g.walk fuel seen queue := by
  induction fuel generalizing seen queue with
  | zero => rfl
  | succ fuel ih =>
    cases queue with
    | nil => rfl
    | cons current queue =>
      obtain ⟨⟨n, hn, rfl⟩, hrest⟩ := List.forall_mem_cons.1 hqueue
      obtain ⟨again, hagain, hknown⟩ := h.outgoing n hn
      have hfresh : unseen seen (g'.outgoing n.id) = unseen seen (g.outgoing n.id) := by
        rw [hagain]
        exact unseen_append_of_known fun m hm => .inr (List.mem_map_of_mem (hknown hm))
      dsimp only [Graph.walk]
      rw [hfresh]
      congr 1
      apply ih
      intro a ha
      rcases List.mem_append.1 ha with ha | ha
      · exact hrest a ha
      · obtain ⟨m, hm, rfl⟩ := List.mem_map.1 ha
        exact ⟨m, mem_of_node? (mem_outgoing_iff.1 (of_mem_unseen hm).1).1, rfl⟩

theorem reachable? (h : g.Retraces g') {n : Node} (hn : n ∈ g.nodes) (p : Node → Bool) :
    g'.reachable? n.id p = g.reachable? n.id p := by
  have hwalk : g'.reachableFrom n.id = g.reachableFrom n.id := by
    unfold reachableFrom
    rw [h.nodes]
    refine h.walk fun a ha => ⟨n, hn, ?_⟩
    rw [List.mem_singleton.1 ha]
  unfold Graph.reachable?
  rw [hwalk]

end Retraces

end Graph

/-! ## Rules -/

section Rules

variable {g g' : Graph}

theorem evaluate_eq_of_offenders {r : Rule}
    (h : r.pattern.offenders g' = r.pattern.offenders g) : r.evaluate g' = r.evaluate g := by
  unfold Rule.evaluate
  rw [h]

/-- The roles that a pattern exempts from its search for isolated nodes. -/
def Pattern.exempt? : Pattern → Option (List Role)
  | .isolation exempt => some exempt
  | _ => none

/-- A rule that does not look for isolated nodes reads the nodes alone. -/
theorem evaluate_eq_of_exempt? (h : g'.nodes = g.nodes) {r : Rule}
    (hr : r.pattern.exempt? = none) : r.evaluate g' = r.evaluate g := by
  apply evaluate_eq_of_offenders
  obtain ⟨nodes, edges⟩ := g
  obtain ⟨nodes', edges'⟩ := g'
  obtain rfl : nodes' = nodes := h
  cases hp : r.pattern with
  | isolation exempt => simp [hp, Pattern.exempt?] at hr
  | _ => rfl

theorem mem_offenders_isolation_iff {exempt : List Role} {n : Node} :
    n ∈ (Pattern.isolation exempt).offenders g ↔
      n ∈ g.nodes ∧ n.hasAnyRole exempt = false ∧ g.isTouched n = false := by
  simp [Pattern.offenders, Graph.isTouched]

theorem offenders_isolation_eq (h : g'.nodes = g.nodes) {exempt : List Role}
    (htouched : ∀ n ∈ g.nodes, n.hasAnyRole exempt = false → g'.isTouched n = g.isTouched n) :
    (Pattern.isolation exempt).offenders g' = (Pattern.isolation exempt).offenders g := by
  dsimp only [Pattern.offenders]
  rw [h]
  refine List.filter_congr fun n hn => ?_
  cases hexempt : n.hasAnyRole exempt with
  | true => rfl
  | false =>
    have htouch : g'.edges.any (·.touches n.id) = g.edges.any (·.touches n.id) :=
      htouched n hn hexempt
    rw [htouch]

/-- All built-in rules that look for isolated nodes exempt the ambient roles. -/
theorem exempt?_of_mem_builtIn {r : Rule} (hr : r ∈ Rule.builtIn) :
    r.pattern.exempt? = none ∨ r.pattern = .isolation Rule.ambient := by
  have htable : ∀ r ∈ Rule.builtIn,
      r.pattern.exempt? = none ∨ r.pattern = .isolation Rule.ambient := by
    decide +kernel
  exact htable r hr

theorem evaluate_eq_of_touched (h : g'.nodes = g.nodes)
    (htouched : ∀ n ∈ g.nodes, n.hasAnyRole Rule.ambient = false →
      g'.isTouched n = g.isTouched n) {r : Rule} (hr : r ∈ Rule.builtIn) :
    r.evaluate g' = r.evaluate g := by
  rcases exempt?_of_mem_builtIn hr with hp | hp
  · exact evaluate_eq_of_exempt? h hp
  · apply evaluate_eq_of_offenders
    rw [hp]
    exact offenders_isolation_eq h htouched

/-- Where the same nodes have an edge, all built-in rules have the same findings. -/
theorem findings_eq_of_touched (h : g'.nodes = g.nodes)
    (htouched : ∀ n ∈ g.nodes, n.hasAnyRole Rule.ambient = false →
      g'.isTouched n = g.isTouched n) :
    (∀ framework time, evaluateFramework g' framework time = evaluateFramework g framework time) ∧
      evaluateHeuristics g' = evaluateHeuristics g := by
  constructor
  · intro framework time
    unfold evaluateFramework runRules
    rw [List.flatMap_congr fun r hr =>
      evaluate_eq_of_touched h htouched (Rule.mem_builtIn_of_framework hr)]
  · exact List.flatMap_congr fun r hr =>
      evaluate_eq_of_touched h htouched (Rule.mem_builtIn_of_heuristics hr)

end Rules

/-! ## Checks -/

section Checks

variable {g g' : Graph}

namespace Connectivity

theorem Tier.checks_eq_of_retraces (h : g.Retraces g') (t : Tier) : t.checks g' = t.checks g := by
  have hrole : ∀ role, g'.withRole role = g.withRole role := fun role => by
    unfold Graph.withRole
    rw [h.nodes]
  have hsome : g'.hasRole t.target = g.hasRole t.target := by
    unfold Graph.hasRole
    rw [h.nodes]
  unfold Tier.checks
  rw [hsome, hrole]
  congr 1
  refine List.map_congr_left fun n hn => ?_
  unfold Tier.check
  rw [h.reachable? (mem_withRole_iff.1 hn).1]

/-- Texts that occurred before make no difference. -/
theorem distinct_append_of_subset {xs again : List String} (h : again ⊆ xs) :
    distinct (xs ++ again) = distinct xs := by
  have hstay : ∀ seen : List String, again ⊆ seen →
      again.foldl (fun seen x => if seen.contains x then seen else seen ++ [x]) seen = seen := by
    intro seen hseen
    clear h
    induction again with
    | nil => rfl
    | cons x again ih =>
      have hx : seen.contains x = true := List.contains_iff_mem.2 (hseen List.mem_cons_self)
      rw [List.foldl_cons, if_pos hx]
      exact ih fun y hy => hseen (List.mem_cons_of_mem x hy)
  unfold distinct
  rw [List.foldl_append]
  exact hstay _ fun x hx => mem_distinct.2 (h hx)

theorem fanOutTargets_eq (h : g.Retraces g') {lb : Node} (hlb : lb ∈ g.nodes) :
    fanOutTargets g' lb = fanOutTargets g lb := by
  obtain ⟨again, hagain, hknown⟩ := h.outgoing lb hlb
  unfold fanOutTargets
  rw [hagain, List.filter_append, List.map_append]
  exact distinct_append_of_subset (List.map_subset _ (List.filter_subset _ hknown))

theorem fanOutChecks_eq_of_retraces (h : g.Retraces g') : fanOutChecks g' = fanOutChecks g := by
  unfold fanOutChecks Graph.hasRole Graph.withRole
  rw [h.nodes]
  congr 1
  refine List.map_congr_left fun lb hlb => ?_
  unfold fanOutCheck
  rw [fanOutTargets_eq h (List.mem_filter.1 hlb).1]

theorem isEmpty_edgesTouching (g : Graph) (n : Node) :
    (g.edgesTouching n.id).isEmpty = !g.isTouched n := by
  unfold Graph.edgesTouching Graph.isTouched
  rw [Bool.eq_iff_iff]
  simp

theorem mem_orphans_iff {n : Node} :
    n ∈ orphans g ↔ n ∈ g.nodes ∧ n.hasAnyRole Rule.ambient = false ∧ g.isTouched n = false := by
  have hexempt : edgelessRoles = Rule.ambient := rfl
  simp [orphans, edgeCandidates, hexempt, isEmpty_edgesTouching, and_comm]

theorem orphanChecks_eq_of_touched (h : g'.nodes = g.nodes)
    (htouched : ∀ n ∈ g.nodes, n.hasAnyRole Rule.ambient = false → g'.isTouched n = g.isTouched n) :
    orphanChecks g' = orphanChecks g := by
  have hcandidates : edgeCandidates g' = edgeCandidates g := by
    unfold edgeCandidates
    rw [h]
  have horphans : orphans g' = orphans g := by
    unfold orphans
    rw [hcandidates]
    refine List.filter_congr fun n hn => ?_
    obtain ⟨hn, hexempt⟩ := List.mem_filter.1 hn
    rw [Bool.not_eq_true'] at hexempt
    rw [isEmpty_edgesTouching, isEmpty_edgesTouching, htouched n hn hexempt]
  unfold orphanChecks
  rw [hcandidates, horphans]

end Connectivity

/-- The other suites read the nodes alone. -/
theorem suites_eq_of_nodes (h : g'.nodes = g.nodes) (limits : CostLimits) :
    Security.checks g' = Security.checks g ∧ Cost.checks g' limits = Cost.checks g limits ∧
      Redundancy.checks g' = Redundancy.checks g := by
  obtain ⟨nodes, edges⟩ := g
  obtain ⟨nodes', edges'⟩ := g'
  obtain rfl : nodes' = nodes := h
  exact ⟨rfl, rfl, rfl⟩

/-- Two runs differ at most in the orphan check. -/
theorem Graph.Retraces.forall₂_runChecks (h : g.Retraces g') {S : Check → Check → Prop}
    (hrefl : ∀ c, S c c)
    (horphans : List.Forall₂ S (Connectivity.orphanChecks g) (Connectivity.orphanChecks g'))
    (limits : CostLimits) : List.Forall₂ S (runChecks g limits) (runChecks g' limits) := by
  have hsame : ∀ checks : List Check, List.Forall₂ S checks checks := fun checks =>
    List.forall₂_same.2 fun c _ => hrefl c
  obtain ⟨hsecurity, hcost, hredundancy⟩ := suites_eq_of_nodes h.nodes limits
  rw [runChecks_eq, runChecks_eq, hsecurity, hcost, hredundancy]
  unfold Connectivity.checks
  rw [Connectivity.Tier.checks_eq_of_retraces h, Connectivity.Tier.checks_eq_of_retraces h,
    Connectivity.fanOutChecks_eq_of_retraces h]
  refine List.rel_append (List.rel_append (List.rel_append ?_ (hsame _)) (hsame _)) (hsame _)
  exact List.rel_append (hsame _) horphans

theorem Graph.Retraces.runChecks_eq (h : g.Retraces g')
    (horphans : Connectivity.orphanChecks g' = Connectivity.orphanChecks g)
    (limits : CostLimits) : runChecks g' limits = runChecks g limits := by
  have hpairs : List.Forall₂ Eq (runChecks g limits) (runChecks g' limits) := by
    refine h.forall₂_runChecks (fun _ => rfl) ?_ limits
    rw [horphans, List.forall₂_eq_eq_eq]
  rw [List.forall₂_eq_eq_eq] at hpairs
  exact hpairs.symm

end Checks

end CloudGraph

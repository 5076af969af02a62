import CloudGraph.Proofs.Check.Gate
import CloudGraph.Proofs.Rule.Evaluation
import Mathlib.Data.Finset.Dedup

/-!
# The order of the declarations

A graph may declare its nodes and edges in any order. Texts follow that order, and so does the node
that a search finds first. **No verdict does** (`verdicts_of_permuted`): the rules have the same
offenders, and the checks the same statuses.

* *Patterns* ask whether there is a node, whether all nodes are such, or how many are. So the
  offenders of a permuted graph are the offenders permuted (`Permuted.offenders`).
* *Searches* fail or succeed with the paths of the graph, and paths have no order
  (`Permuted.reachable?_eq_none_iff`).
* *Counts of what a load balancer feeds* count each node once (`Permuted.fanOutTargets`).

The estimate of the cost is left out. It is a sum of floating-point numbers, and the order of the
terms may show in the last digit.
-/

namespace CloudGraph

/-- The second graph declares the nodes and the edges of the first in some order. -/
structure Graph.Permuted (g g' : Graph) : Prop where
  nodes : g'.nodes.Perm g.nodes
  edges : g'.edges.Perm g.edges

/-- What a finding says, whatever the order of the nodes that it names. -/
def Finding.verdict (f : Finding) : String × String × Finset String :=
  (f.id, f.ruleId, f.affected.toFinset)

/-- The id of a check and its status, which is left open for the estimate of the cost. -/
def Check.verdict (c : Check) : String × Option Status :=
  (c.id, if c.id = "cost-monthly-estimate" then none else some c.status)

namespace Graph.Permuted

variable {g g' : Graph}

theorem withRole (h : g.Permuted g') (role : Role) : (g'.withRole role).Perm (g.withRole role) :=
  h.nodes.filter _

theorem hasRole (h : g.Permuted g') (role : Role) : g'.hasRole role = g.hasRole role :=
  h.nodes.any_eq

/-! ## Rules -/

theorem offenders (h : g.Permuted g') (p : Pattern) : (p.offenders g').Perm (p.offenders g) := by
  cases p with
  | roleAbsence present absent =>
    simp only [Pattern.offenders, h.hasRole]
    split_ifs
    · exact .refl _
    · exact h.nodes.filter _
  | configFlag roles flag unsafeWhen => exact h.nodes.filter _
  | unbalancedReplicas role balancer =>
    simp only [Pattern.offenders, h.hasRole]
    split_ifs
    · exact .refl _
    · exact (h.withRole role).filter _
  | singlePointOfFailure role =>
    simp only [Pattern.offenders, (h.withRole role).all_eq]
    split_ifs
    · exact h.withRole role
    · exact .refl _
  | isolation exempt =>
    simp only [Pattern.offenders, h.edges.any_eq]
    exact h.nodes.filter _
  | geography roles allowed => exact h.nodes.filter _
  | cardinality roles sizes threshold =>
    have hmany : ∀ {ns ms : List Node}, ms.Perm ns →
        (if threshold < ms.length then ms else []).Perm
          (if threshold < ns.length then ns else []) := by
      intro ns ms hperm
      rw [hperm.length_eq]
      split_ifs
      · exact hperm
      · exact .refl _
    exact hmany (h.nodes.filter _)

theorem evaluate (h : g.Permuted g') (r : Rule) :
    ((r.evaluate g').map Finding.verdict).Perm ((r.evaluate g).map Finding.verdict) := by
  have hperm := h.offenders r.pattern
  dsimp only [Rule.evaluate]
  rw [hperm.isEmpty_eq]
  split_ifs
  · exact .refl _
  · exact (hperm.map _).map _
  · have hnamed := List.toFinset_eq_of_perm _ _ (hperm.map (·.id))
    simp only [Rule.findingForAll, Rule.finding, List.map_cons, List.map_nil, Finding.verdict,
      hnamed]
    exact .refl _

theorem runRules (h : g.Permuted g') (rules : List Rule) :
    ((runRules rules g').map Finding.verdict).Perm
      ((runRules rules g).map Finding.verdict) := by
  unfold CloudGraph.runRules
  rw [List.map_flatMap, List.map_flatMap]
  exact List.Perm.flatMap_left _ fun r _ => h.evaluate r

theorem score (h : g.Permuted g') (framework : Framework) (time : Timestamp) :
    (evaluateFramework g' framework time).score = (evaluateFramework g framework time).score := by
  have hlength : (CloudGraph.runRules framework.rules g').length =
      (CloudGraph.runRules framework.rules g).length := by
    simpa using (h.runRules framework.rules).length_eq
  simp only [evaluateFramework, ComplianceReport.ofFindings, hlength]

/-! ## Searches -/

section Distinct

variable (hnodup : (g.nodes.map (·.id)).Nodup)
include hnodup

theorem node? (h : g.Permuted g') (id : String) : g'.node? id = g.node? id := by
  have hnodup' : (g'.nodes.map (·.id)).Nodup := (h.nodes.map _).nodup_iff.2 hnodup
  ext n
  constructor
  · intro hn
    obtain rfl := id_of_node? hn
    exact node?_of_mem hnodup (h.nodes.mem_iff.1 (mem_of_node? hn))
  · intro hn
    obtain rfl := id_of_node? hn
    exact node?_of_mem hnodup' (h.nodes.mem_iff.2 (mem_of_node? hn))

theorem step_iff (h : g.Permuted g') (a b : String) : g'.Step a b ↔ g.Step a b := by
  unfold Step contains
  simp only [h.edges.mem_iff, h.node? hnodup]

theorem reachable?_eq_none_iff (h : g.Permuted g') {start : String} {p : Node → Bool} :
    g'.reachable? start p = none ↔ g.reachable? start p = none := by
  have hpath : g'.Path = g.Path := by
    have hstep : g'.Step = g.Step := by
      funext a b
      exact propext (h.step_iff hnodup a b)
    unfold Path
    rw [hstep]
  rw [Graph.reachable?_eq_none_iff, Graph.reachable?_eq_none_iff, hpath]
  simp only [h.node? hnodup]

theorem outgoing (h : g.Permuted g') (id : String) : (g'.outgoing id).Perm (g.outgoing id) := by
  unfold Graph.outgoing
  simp only [h.node? hnodup]
  exact (h.edges.filter _).filterMap _

end Distinct

end Graph.Permuted

/-! ## Checks -/

section Checks

variable {g g' : Graph}

/-- The second list has the verdicts of the first in some order. -/
def SameVerdicts (checks checks' : List Check) : Prop :=
  (checks'.map Check.verdict).Perm (checks.map Check.verdict)

theorem SameVerdicts.append {a a' b b' : List Check} (ha : SameVerdicts a a')
    (hb : SameVerdicts b b') : SameVerdicts (a ++ b) (a' ++ b') := by
  unfold SameVerdicts
  rw [List.map_append, List.map_append]
  exact List.Perm.append ha hb

/-- Checks of single nodes have the same verdicts if they have so on each node. -/
theorem sameVerdicts_map {nodes nodes' : List Node} (h : nodes'.Perm nodes)
    {check check' : Node → Check} (hcheck : ∀ n, (check' n).verdict = (check n).verdict) :
    SameVerdicts (nodes.map check) (nodes'.map check') := by
  unfold SameVerdicts
  rw [List.map_map, List.map_map]
  have hsame : Check.verdict ∘ check' = Check.verdict ∘ check := funext hcheck
  rw [hsame]
  exact h.map _

/-- Checks that look at one node of a role each have the same verdicts. -/
theorem sameVerdicts_withRole (h : g.Permuted g') (role : Role) (check : Node → Check) :
    SameVerdicts ((g.withRole role).map check) ((g'.withRole role).map check) :=
  sameVerdicts_map (h.withRole role) fun _ => rfl

namespace Connectivity

theorem status_fanOutCheck (g : Graph) (lb : Node) :
    (fanOutCheck g lb).status = match (fanOutTargets g lb).length with
      | 0 => .fail
      | 1 => .warning
      | _ => .pass := by
  unfold fanOutCheck
  rcases fanOutTargets g lb with _ | ⟨a, _ | ⟨b, rest⟩⟩ <;> rfl

theorem sameVerdicts_tier (h : g.Permuted g') (hnodup : (g.nodes.map (·.id)).Nodup) (t : Tier) :
    SameVerdicts (t.checks g) (t.checks g') := by
  have hcheck : ∀ n, (t.check g' n).verdict = (t.check g n).verdict := by
    intro n
    have hnone : g'.reachable? n.id (·.hasRole t.target) = none ↔
        g.reachable? n.id (·.hasRole t.target) = none := h.reachable?_eq_none_iff hnodup
    unfold Tier.check
    cases hfound : g.reachable? n.id (·.hasRole t.target) with
    | none => rw [hnone.2 hfound]
    | some m =>
      cases hfound' : g'.reachable? n.id (·.hasRole t.target) with
      | none => simp [hnone.1 hfound'] at hfound
      | some m' => rfl
  unfold Tier.checks
  rw [h.hasRole]
  split_ifs
  · exact sameVerdicts_map (h.withRole t.source) hcheck
  · exact .refl _

theorem fanOutTargets_perm (h : g.Permuted g') (hnodup : (g.nodes.map (·.id)).Nodup) (lb : Node) :
    (fanOutTargets g' lb).Perm (fanOutTargets g lb) := by
  refine (List.perm_ext_iff_of_nodup (nodup_distinct _) (nodup_distinct _)).2 fun id => ?_
  rw [mem_distinct, mem_distinct]
  exact (((h.outgoing hnodup lb.id).filter _).map _).mem_iff

theorem sameVerdicts_fanOut (h : g.Permuted g') (hnodup : (g.nodes.map (·.id)).Nodup) :
    SameVerdicts (fanOutChecks g) (fanOutChecks g') := by
  have hcheck : ∀ lb, (fanOutCheck g' lb).verdict = (fanOutCheck g lb).verdict := by
    intro lb
    have hid : (fanOutCheck g' lb).id = (fanOutCheck g lb).id := rfl
    unfold Check.verdict
    rw [status_fanOutCheck, status_fanOutCheck, (fanOutTargets_perm h hnodup lb).length_eq, hid]
  unfold fanOutChecks
  rw [h.hasRole]
  split_ifs
  · exact sameVerdicts_map (h.withRole .loadBalancer) hcheck
  · exact .refl _

theorem sameVerdicts_orphan (h : g.Permuted g') :
    SameVerdicts (orphanChecks g) (orphanChecks g') := by
  have hcandidates : (edgeCandidates g').Perm (edgeCandidates g) := h.nodes.filter _
  have horphans : (orphans g').Perm (orphans g) := by
    have htouching : ∀ id, (g'.edgesTouching id).isEmpty = (g.edgesTouching id).isEmpty :=
      fun id => (h.edges.filter _).isEmpty_eq
    unfold orphans
    simp only [htouching]
    exact hcandidates.filter _
  unfold orphanChecks
  rw [hcandidates.isEmpty_eq]
  split_ifs
  · exact .refl _
  · simp only [SameVerdicts, List.map_cons, List.map_nil, Check.verdict, horphans.isEmpty_eq]
    exact .refl _

end Connectivity

theorem Security.sameVerdicts_checks (h : g.Permuted g') :
    SameVerdicts (checks g) (checks g') := by
  have hfirewall : SameVerdicts (firewallChecks g) (firewallChecks g') := by
    unfold firewallChecks
    rw [h.hasRole]
    split_ifs
    · simp only [SameVerdicts, List.map_cons, List.map_nil, Check.verdict,
        (h.withRole .firewall).isEmpty_eq]
      exact .refl _
    · exact .refl _
  have hstorage := sameVerdicts_withRole h .storage storageCheck
  have hdatabase := sameVerdicts_withRole h .database databaseCheck
  have hbalancer := sameVerdicts_withRole h .loadBalancer loadBalancerCheck
  exact ((hstorage.append hdatabase).append hfirewall).append hbalancer

theorem Cost.sameVerdicts_checks (h : g.Permuted g') (limits : CostLimits) :
    SameVerdicts (checks g limits) (checks g' limits) := by
  have hestimate : ∀ g : Graph,
      (estimateCheck g limits).verdict = ("cost-monthly-estimate", none) := fun _ => rfl
  have hempty : g'.isEmpty = g.isEmpty := h.nodes.isEmpty_eq
  unfold SameVerdicts checks
  rw [hempty]
  split_ifs
  · exact .refl _
  · rw [List.map_cons, List.map_cons, hestimate, hestimate]
    exact (((h.withRole .compute).filterMap _).map _).cons _

theorem Redundancy.sameVerdicts_checks (h : g.Permuted g') :
    SameVerdicts (checks g) (checks g') := by
  have hbackup : SameVerdicts (backupChecks g) (backupChecks g') := by
    unfold backupChecks
    rw [h.hasRole]
    split_ifs
    · simp only [SameVerdicts, List.map_cons, List.map_nil, Check.verdict,
        (h.withRole .backup).isEmpty_eq]
      exact .refl _
    · exact .refl _
  have hreplicas := sameVerdicts_withRole h .compute replicasCheck
  have hstandby := sameVerdicts_withRole h .database standbyCheck
  exact (hreplicas.append hstandby).append hbackup

theorem sameVerdicts_runChecks (h : g.Permuted g') (hnodup : (g.nodes.map (·.id)).Nodup)
    (limits : CostLimits) : SameVerdicts (runChecks g limits) (runChecks g' limits) := by
  rw [runChecks_eq, runChecks_eq]
  refine SameVerdicts.append (.append (.append ?connectivity (Security.sameVerdicts_checks h))
    (Cost.sameVerdicts_checks h limits)) (Redundancy.sameVerdicts_checks h)
  exact ((Connectivity.sameVerdicts_tier h hnodup _).append
    (Connectivity.sameVerdicts_tier h hnodup _)).append
      (Connectivity.sameVerdicts_fanOut h hnodup) |>.append (Connectivity.sameVerdicts_orphan h)

end Checks

/-- **Verdicts do not depend on the order of the declarations.** Permute the nodes and the edges of
a graph with distinct node ids. Every report has the same score, and its findings name the same
rules and the same sets of nodes; so do the findings of the heuristics, with the same ids; and a
run has checks with the same ids and, the estimate of the cost apart, the same statuses. -/
theorem verdicts_of_permuted {g g' : Graph} (hnodes : g'.nodes.Perm g.nodes)
    (hedges : g'.edges.Perm g.edges) (hnodup : (g.nodes.map (·.id)).Nodup) :
    (∀ framework time,
        (evaluateFramework g' framework time).score =
          (evaluateFramework g framework time).score ∧
        ((evaluateFramework g' framework time).findings.map Finding.verdict).Perm
          ((evaluateFramework g framework time).findings.map Finding.verdict)) ∧
      ((evaluateHeuristics g').map Finding.verdict).Perm
        ((evaluateHeuristics g).map Finding.verdict) ∧
      ∀ limits, ((runChecks g' limits).map Check.verdict).Perm
        ((runChecks g limits).map Check.verdict) := by
  have h : g.Permuted g' := ⟨hnodes, hedges⟩
  exact ⟨fun framework time => ⟨h.score framework time, h.runRules framework.rules⟩,
    h.runRules Rule.heuristics, sameVerdicts_runChecks h hnodup⟩

theorem verdicts_of_permuted_reversed :
    let g : Graph := {
      nodes := [Node.ofType "web" "web-frontend", Node.ofType "api" "api-server",
        Node.ofType "jobs" "aws-lambda", Node.ofType "db" "aws-rds"]
      edges := [⟨"e1", "web", "api"⟩, ⟨"e2", "web", "jobs"⟩, ⟨"e3", "jobs", "web"⟩,
        ⟨"e4", "api", "db"⟩] }
    let g' : Graph := { nodes := g.nodes.reverse, edges := g.edges.reverse }
    let found := fun g : Graph => (g.reachable? "web" (·.hasRole .backend)).map (·.id)
    g'.nodes.Perm g.nodes ∧ g'.edges.Perm g.edges ∧ (g.nodes.map (·.id)).Nodup ∧
      found g = some "api" ∧ found g' = some "jobs" ∧
      ((evaluateHeuristics g').map Finding.verdict).Perm
        ((evaluateHeuristics g).map Finding.verdict) ∧
      ((runChecks g' {}).map Check.verdict).Perm ((runChecks g {}).map Check.verdict) := by
  intro g g' found
  have hnodes : g'.nodes.Perm g.nodes := List.reverse_perm _
  have hedges : g'.edges.Perm g.edges := List.reverse_perm _
  have hnodup : (g.nodes.map (·.id)).Nodup := by decide +kernel
  obtain ⟨-, hheuristics, hchecks⟩ := verdicts_of_permuted hnodes hedges hnodup
  exact ⟨hnodes, hedges, hnodup, by decide +kernel, by decide +kernel, hheuristics, hchecks {}⟩

end CloudGraph

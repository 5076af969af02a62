import CloudGraph.Proofs.Rule.Evaluation
import Mathlib.Data.List.Nodup

/-!
# The ids of findings

A finding for all offenders has the id of its rule. A finding for one offender has the id of the
rule, a colon and the id of the node, and that may be any text at all.

**Theorem (`findings_exact_distinct`).** The findings of a rule name its offenders, all of them and
each once, and no finding names none. Where the ids of the nodes are pairwise distinct, so are those
of the findings, in each report and in the findings of the heuristics.

Colons in the id of a node do no harm, because the id of a built-in rule has none
(`Rule.colon_notMem_of_mem_builtIn`). What stands before the first colon is thus the id of the rule
(`Rule.beforeColon_of_mem_evaluate`), and findings of two rules differ there. Those of one rule
differ behind it (`Rule.nodup_id_evaluate`).
-/

namespace CloudGraph

variable {g : Graph}

/-! ## One rule -/

theorem ite_sublist {α : Type} {p : Prop} [Decidable p] {xs ys zs : List α}
    (h : xs.Sublist zs) (h' : ys.Sublist zs) : (if p then xs else ys).Sublist zs := by
  split_ifs
  · exact h
  · exact h'

/-- Patterns keep the order of the declarations. -/
theorem Pattern.offenders_sublist (p : Pattern) (g : Graph) : (p.offenders g).Sublist g.nodes := by
  cases p with
  | roleAbsence present absent => exact ite_sublist (List.nil_sublist _) List.filter_sublist
  | configFlag roles flag unsafeWhen => exact List.filter_sublist
  | unbalancedReplicas role balancer =>
    have hrole : (g.withRole role).Sublist g.nodes := List.filter_sublist
    exact ite_sublist (List.nil_sublist _) (List.filter_sublist.trans hrole)
  | singlePointOfFailure role => exact ite_sublist List.filter_sublist (List.nil_sublist _)
  | isolation exempt => exact List.filter_sublist
  | geography roles allowed => exact List.filter_sublist
  | cardinality roles sizes threshold =>
    exact ite_sublist List.filter_sublist (List.nil_sublist _)

namespace Rule

theorem affected_ne_nil {r : Rule} {f : Finding} (h : f ∈ r.evaluate g) : f.affected ≠ [] := by
  rcases eq_of_mem_evaluate h with ⟨n, rfl⟩ | ⟨n, nodes, rfl⟩
  · exact List.cons_ne_nil _ _
  · exact List.cons_ne_nil _ _

theorem nodup_id_evaluate (r : Rule) (h : (g.nodes.map (·.id)).Nodup) :
    ((r.evaluate g).map (·.id)).Nodup := by
  have hoffenders : ((r.pattern.offenders g).map (·.id)).Nodup :=
    h.sublist ((r.pattern.offenders_sublist g).map _)
  dsimp only [evaluate]
  split_ifs
  · exact List.nodup_nil
  · have hinjective : Function.Injective fun id => r.id ++ ":" ++ id := fun _ _ heq =>
      (String.append_right_inj _).1 heq
    have hids := hoffenders.map hinjective
    rw [List.map_map] at hids ⊢
    exact hids
  · exact List.nodup_singleton _

end Rule

/-! ## Several rules -/

namespace Rule

theorem beforeColon_of_mem_evaluate {r : Rule} {f : Finding} (hcolon : ':' ∉ r.id.toList)
    (h : f ∈ r.evaluate g) : beforeColon f.id = r.id := by
  rcases eq_of_mem_evaluate h with ⟨n, rfl⟩ | ⟨n, nodes, rfl⟩
  · exact beforeColon_append hcolon n.id
  · exact beforeColon_eq_self hcolon

theorem colon_notMem_of_mem_builtIn {r : Rule} (hr : r ∈ builtIn) : ':' ∉ r.id.toList := by
  -- A text is slow to take apart, so the characters are found by unification.
  have htable : ∀ r ∈ builtIn, ∃ cs, r.id = String.ofList cs ∧ ':' ∉ cs := by
    simp only [builtIn, Framework.all, Framework.rules, cisRules, gdprRules, soc2Rules, pciDssRules,
      hipaaRules, heuristics, securityHeuristics, costHeuristics, reliabilityHeuristics,
      performanceHeuristics, List.flatMap_cons, List.flatMap_nil, List.forall_mem_append,
      List.forall_mem_cons, List.not_mem_nil, false_imp_iff, implies_true, and_true]
    repeat' apply And.intro
    all_goals exact ⟨_, rfl, by decide⟩
  obtain ⟨cs, hid, hcolon⟩ := htable r hr
  rwa [hid, String.toList_ofList]

end Rule

theorem nodup_id_runRules {rules : List Rule} (hcolon : ∀ r ∈ rules, ':' ∉ r.id.toList)
    (hrules : (rules.map (·.id)).Nodup) (h : (g.nodes.map (·.id)).Nodup) :
    ((runRules rules g).map (·.id)).Nodup := by
  unfold runRules
  rw [List.map_flatMap, List.nodup_flatMap]
  refine ⟨fun r _ => r.nodup_id_evaluate h, ?_⟩
  have hpairs : rules.Pairwise fun r s => r.id ≠ s.id := List.pairwise_map.1 hrules
  refine hpairs.imp_of_mem fun {r s} hr hs hne => List.disjoint_left.2 ?_
  intro id hid hid'
  obtain ⟨f, hf, rfl⟩ := List.mem_map.1 hid
  obtain ⟨f', hf', heq⟩ := List.mem_map.1 hid'
  apply hne
  rw [← Rule.beforeColon_of_mem_evaluate (hcolon r hr) hf,
    ← Rule.beforeColon_of_mem_evaluate (hcolon s hs) hf', heq]

/-- **Exact findings with distinct ids.** For every rule and graph, the findings name the offenders
of the pattern in the order of the declarations, each of them once, and each finding names some. In
a graph with distinct node ids, whatever characters these have, the findings of the heuristics have
distinct ids, and so have those of each report. -/
theorem findings_exact_distinct (g : Graph) :
    (∀ r : Rule, (r.evaluate g).flatMap (·.affected) = (r.pattern.offenders g).map (·.id) ∧
        (r.pattern.offenders g).Sublist g.nodes ∧ ∀ f ∈ r.evaluate g, f.affected ≠ []) ∧
      ((g.nodes.map (·.id)).Nodup →
        ((evaluateHeuristics g).map (·.id)).Nodup ∧
          ∀ framework time, ((evaluateFramework g framework time).findings.map (·.id)).Nodup) := by
  refine ⟨fun r => ⟨r.flatMap_affected_evaluate g, r.pattern.offenders_sublist g,
    fun f hf => Rule.affected_ne_nil hf⟩, fun h => ⟨?heuristics, fun framework time => ?report⟩⟩
  case heuristics =>
    refine nodup_id_runRules (fun r hr => ?_) nodup_heuristicRuleIds h
    exact Rule.colon_notMem_of_mem_builtIn (Rule.mem_builtIn_of_heuristics hr)
  case report =>
    refine nodup_id_runRules (fun r hr => ?_) framework.nodup_ruleIds h
    exact Rule.colon_notMem_of_mem_builtIn (Rule.mem_builtIn_of_framework hr)

/-- Nodes that are named after a rule, and after nothing but a colon. -/
theorem findings_exact_distinct_colons :
    let g : Graph := {
      nodes := [
        Node.ofType ":" "cdn",
        Node.ofType "" "cdn",
        Node.ofType "cost-idle-resource:" "cdn",
        Node.ofType "cost-idle-resource::" "cdn"] }
    (g.nodes.map (·.id)).Nodup ∧
      ((evaluateHeuristics g).map (·.id)).Nodup ∧
      ((evaluateFramework g .cis { seconds := 0 }).findings.map (·.id)).Nodup := by
  intro g
  have hids : (g.nodes.map (·.id)).Nodup := by decide
  obtain ⟨hheuristics, hreports⟩ := (findings_exact_distinct g).2 hids
  exact ⟨hids, hheuristics, hreports .cis { seconds := 0 }⟩

end CloudGraph

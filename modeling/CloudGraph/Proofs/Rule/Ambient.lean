import CloudGraph.Proofs.Rule.Evaluation
import Mathlib.Data.List.Nodup

/-!
# Ambient nodes only clear findings

A backup, a monitoring service and a container of networks serve the whole graph. **Adding such a
node can only be good** (`ambient_node_only_clears`): the findings of the rules that ask for its
role go, and every other finding stays as it is, word for word.

The reason is in the tables. A component type with an ambient role has no other role
(`hasRole_of_ambient`), and a built-in rule asks for the ambient role or has no interest in a node
that holds it (`asksFor_or_overlooks`): none of its roles is the ambient one, and if it looks for
isolated nodes, it exempts the role. So the node joins no list of offenders, and changes no count
that a pattern makes (`offenders_withNode`).
-/

namespace CloudGraph

/-- The graph with one more node at the end. -/
def Graph.withNode (g : Graph) (b : Node) : Graph :=
  { g with nodes := g.nodes ++ [b] }

/-- Whether the pattern offends because there is no node of the role. -/
def Pattern.asksFor (p : Pattern) (role : Role) : Bool :=
  match p with
  | .roleAbsence _ absent => absent == role
  | _ => false

/-- Whether a node that holds the role and no other makes no difference to the pattern. -/
def Pattern.overlooks (p : Pattern) (role : Role) : Bool :=
  match p with
  | .roleAbsence present absent => absent != role && !present.contains role
  | .configFlag roles .. | .geography roles .. | .cardinality roles .. => !roles.contains role
  | .unbalancedReplicas counted balancer => counted != role && balancer != role
  | .singlePointOfFailure counted => counted != role
  | .isolation exempt => exempt.contains role

/-- The ids of the rules that ask for the role. -/
def Rule.idsAskingFor (role : Role) (rules : List Rule) : List String :=
  (rules.filter (·.pattern.asksFor role)).map (·.id)

/-! ## The tables -/

theorem asksFor_or_overlooks {role : Role} (hrole : role ∈ Rule.ambient) {r : Rule}
    (hr : r ∈ Rule.builtIn) : r.pattern.asksFor role = true ∨ r.pattern.overlooks role = true := by
  have htable : ∀ role ∈ Rule.ambient, ∀ r ∈ Rule.builtIn,
      r.pattern.asksFor role = true ∨ r.pattern.overlooks role = true := by
    decide +kernel
  exact htable role hrole r hr

theorem hasRole_of_ambient {role : Role} (hrole : role ∈ Rule.ambient) {b : Node}
    (hb : b.hasRole role = true) (other : Role) : b.hasRole other = (other == role) := by
  have htable : ∀ role ∈ Rule.ambient, ∀ key ∈ role.typeKeys, ∀ other ∈ Role.all,
      other.holds key = (other == role) := by
    decide +kernel
  have hall : other ∈ Role.all := by cases other <;> decide
  exact htable role hrole b.componentType (List.contains_iff_mem.1 hb) other hall

/-! ## The node -/

/-- A node that does not count adds nothing to those that do. -/
theorem filter_nodes_withNode {g : Graph} {b : Node} {p : Node → Bool} (h : p b = false) :
    (g.withNode b).nodes.filter p = g.nodes.filter p := by
  simp [Graph.withNode, List.filter_append, h]

section Node

variable {g : Graph} {b : Node} {role : Role} (hb : ∀ other, b.hasRole other = (other == role))
include hb

theorem hasRole_withNode (other : Role) :
    (g.withNode b).hasRole other = (g.hasRole other || other == role) := by
  simp [Graph.hasRole, Graph.withNode, hb]

theorem withRole_withNode {other : Role} (h : other ≠ role) :
    (g.withNode b).withRole other = g.withRole other := by
  simp [Graph.withRole, Graph.withNode, List.filter_append, hb, h]

theorem hasAnyRole_eq_contains (roles : List Role) :
    b.hasAnyRole roles = roles.contains role := by
  unfold Node.hasAnyRole
  rw [funext hb, List.contains_eq_any_beq]
  congr 1
  funext other
  exact Bool.beq_comm

theorem offenders_withNode {p : Pattern} (hp : p.overlooks role = true) :
    p.offenders (g.withNode b) = p.offenders g := by
  have hany := hasAnyRole_eq_contains hb
  cases p with
  | roleAbsence present absent =>
    simp only [Pattern.overlooks, Bool.and_eq_true, bne_iff_ne, Bool.not_eq_true'] at hp
    have habsent : (absent == role) = false := beq_false_of_ne hp.1
    simp only [Pattern.offenders, hasRole_withNode hb, habsent, Bool.or_false]
    rw [filter_nodes_withNode (by rw [hany, hp.2])]
  | configFlag roles flag unsafeWhen =>
    simp only [Pattern.overlooks, Bool.not_eq_true'] at hp
    exact filter_nodes_withNode (by rw [hany, hp, Bool.false_and])
  | unbalancedReplicas counted balancer =>
    simp only [Pattern.overlooks, Bool.and_eq_true, bne_iff_ne] at hp
    have hbalancer : (balancer == role) = false := beq_false_of_ne hp.2
    simp only [Pattern.offenders, hasRole_withNode hb, hbalancer, Bool.or_false,
      withRole_withNode hb hp.1]
  | singlePointOfFailure counted =>
    simp only [Pattern.overlooks, bne_iff_ne] at hp
    simp only [Pattern.offenders, withRole_withNode hb hp]
  | isolation exempt =>
    simp only [Pattern.overlooks] at hp
    exact filter_nodes_withNode (by rw [hany, hp, Bool.not_true, Bool.false_and])
  | geography roles allowed =>
    simp only [Pattern.overlooks, Bool.not_eq_true'] at hp
    exact filter_nodes_withNode (by rw [hany, hp, Bool.false_and])
  | cardinality roles sizes threshold =>
    simp only [Pattern.overlooks, Bool.not_eq_true'] at hp
    simp only [Pattern.offenders]
    rw [filter_nodes_withNode (by rw [hany, hp, Bool.false_and])]

theorem offenders_withNode_of_asksFor {p : Pattern} (hp : p.asksFor role = true) :
    p.offenders (g.withNode b) = [] := by
  cases p with
  | roleAbsence present absent =>
    have habsent : (absent == role) = true := hp
    simp only [Pattern.offenders, hasRole_withNode hb, habsent, Bool.or_true, if_true]
  | _ => exact absurd hp Bool.false_ne_true

end Node

/-! ## Findings -/

theorem evaluate_withNode {g : Graph} {b : Node} {role : Role} (hrole : role ∈ Rule.ambient)
    (hb : b.hasRole role = true) {r : Rule} (hr : r ∈ Rule.builtIn) :
    r.evaluate (g.withNode b) = if r.pattern.asksFor role then [] else r.evaluate g := by
  have honly := hasRole_of_ambient hrole hb
  dsimp only [Rule.evaluate]
  by_cases hasks : r.pattern.asksFor role = true
  · rw [offenders_withNode_of_asksFor honly hasks, if_pos hasks]
    rfl
  · have hoverlooks := (asksFor_or_overlooks hrole hr).resolve_left hasks
    rw [offenders_withNode honly hoverlooks, if_neg hasks]

theorem runRules_withNode {g : Graph} {b : Node} {role : Role} (hrole : role ∈ Rule.ambient)
    (hb : b.hasRole role = true) {rules : List Rule} (hrules : ∀ r ∈ rules, r ∈ Rule.builtIn)
    (hnodup : (rules.map (·.id)).Nodup) :
    runRules rules (g.withNode b) =
      (runRules rules g).filter fun f => !(Rule.idsAskingFor role rules).contains f.ruleId := by
  unfold runRules
  rw [List.filter_flatMap]
  refine List.flatMap_congr fun r hr => ?_
  have hids : (Rule.idsAskingFor role rules).contains r.id = r.pattern.asksFor role := by
    rw [Bool.eq_iff_iff, List.contains_iff_mem]
    constructor
    · intro hid
      obtain ⟨s, hs, heq⟩ := List.mem_map.1 hid
      obtain ⟨hs, hasks⟩ := List.mem_filter.1 hs
      rwa [List.inj_on_of_nodup_map hnodup hs hr heq] at hasks
    · intro hasks
      exact List.mem_map_of_mem (List.mem_filter.2 ⟨hr, hasks⟩)
  have hsame : ∀ f ∈ r.evaluate g,
      (!(Rule.idsAskingFor role rules).contains f.ruleId) = !r.pattern.asksFor role := by
    intro f hf
    rw [Rule.ruleId_of_mem_evaluate hf, hids]
  rw [List.filter_congr hsame, evaluate_withNode hrole hb (hrules r hr)]
  cases r.pattern.asksFor role <;> simp

/-- **Adding an ambient node only clears checks.** Append to the nodes of a graph one whose type
holds an ambient role, with any id, label, settings and category. From the findings of each
framework and of the heuristics exactly those go whose rule asks for this role; all others stay,
in their order and with the same text and the same affected nodes. -/
theorem ambient_node_only_clears (g : Graph) {role : Role} (hrole : role ∈ Rule.ambient) {b : Node}
    (hb : b.hasRole role = true) :
    (∀ framework time,
        (evaluateFramework (g.withNode b) framework time).findings =
          (evaluateFramework g framework time).findings.filter
            fun f => !(Rule.idsAskingFor role framework.rules).contains f.ruleId) ∧
      evaluateHeuristics (g.withNode b) =
        (evaluateHeuristics g).filter
          fun f => !(Rule.idsAskingFor role Rule.heuristics).contains f.ruleId :=
  ⟨fun framework _ => runRules_withNode hrole hb (fun _ => Rule.mem_builtIn_of_framework)
      framework.nodup_ruleIds,
    runRules_withNode hrole hb (fun _ => Rule.mem_builtIn_of_heuristics) nodup_heuristicRuleIds⟩

theorem ambient_node_only_clears_public_vault :
    let g : Graph := { nodes := [Node.ofType "db" "aws-rds", Node.ofType "vm" "aws-ec2"] }
    let b := (Node.ofType "db" "aws-backup").withSetting "publicAccess" (.bool true)
    let time : Timestamp := { seconds := 0 }
    .backup ∈ Rule.ambient ∧ b.hasRole .backup = true ∧ b.category = .storage ∧
      (evaluateFramework g .cis time).findings.map (·.ruleId) =
        ["cis-1.1", "cis-2.2", "cis-4.1", "cis-5.1"] ∧
      (evaluateFramework (g.withNode b) .cis time).findings.map (·.ruleId) =
        ["cis-1.1", "cis-2.2", "cis-5.1"] := by
  intro g b time
  have hrole : .backup ∈ Rule.ambient := by decide
  have hb : b.hasRole .backup = true := by decide +kernel
  refine ⟨hrole, hb, by decide +kernel, by decide +kernel, ?_⟩
  rw [(ambient_node_only_clears g hrole hb).1 .cis time]
  decide +kernel

end CloudGraph

import CloudGraph.Proofs.Generate.Plan.Cycles
import CloudGraph.Proofs.Generate.Unread

/-!
# Skipped nodes

A node without a mapping is skipped. `Graph.withoutSkipped` deletes these nodes, and the edges that
do not join two of the others.

**Theorem (`skipped_nodes_leave_no_trace`).** The deletion changes nothing in what is generated but
the list of the skipped nodes, and so for the account of a failure.

Skipping takes no part in the names and the indices of the resources: both come from the list of
the nodes with a mapping, which the deletion keeps (`Plan.mapped_filter`). The edges are taken one
by one, each in view of the table that those before it have made. One that does not join two of
these nodes leaves the table and the dropped edges as they are, so it makes no difference to a later
edge either (`Plan.wire_innerEdges`).
-/

namespace CloudGraph

/-- The nodes with a mapping, and the edges between them. -/
def Graph.withoutSkipped (target : Target) (g : Graph) : Graph where
  nodes := g.nodes.filter fun n => (target.mapping? n.componentType).isSome
  edges := Plan.innerEdges target g

namespace Plan

theorem mapped_filter (target : Target) (nodes : List Node) :
    mapped target (nodes.filter fun n => (target.mapping? n.componentType).isSome) =
      mapped target nodes := by
  unfold mapped
  rw [List.filterMap_filter]
  refine List.filterMap_congr fun n _ => ?_
  cases target.mapping? n.componentType <;> rfl

theorem unmapped_filter (target : Target) (nodes : List Node) :
    unmapped target (nodes.filter fun n => (target.mapping? n.componentType).isSome) = [] := by
  unfold unmapped
  rw [List.filter_filter, List.map_eq_nil_iff, List.filter_eq_nil_iff]
  intro n _
  cases target.mapping? n.componentType <;> simp

/-- Only edges between nodes with a mapping take part. -/
theorem wire_innerEdges (target : Target) (g : Graph) :
    wire (mappedIds target g) (innerEdges target g) = wire (mappedIds target g) g.edges := by
  unfold wire innerEdges
  rw [List.foldl_filter]
  congr 1
  funext wired e
  by_cases hinner : e.source ∈ mappedIds target g ∧ e.target ∈ mappedIds target g
  · rw [if_pos (by simpa using hinner)]
  · have hjoins : ¬ ∃ i j, Joins (mappedIds target g) e i j := by
      rintro ⟨i, j, hjoin⟩
      exact hinner ⟨List.mem_of_getElem? hjoin.source_eq, List.mem_of_getElem? hjoin.target_eq⟩
    rw [if_neg (by simpa using hinner), wireEdge_of_not_joins hjoins]

theorem ofGraph_withoutSkipped (target : Target) (g : Graph) :
    ofGraph target (g.withoutSkipped target) = { ofGraph target g with skipped := [] } := by
  dsimp only [ofGraph, Graph.withoutSkipped]
  rw [mapped_filter, unmapped_filter]
  have hwire := wire_innerEdges target g
  unfold mappedIds at hwire
  rw [hwire]

end Plan

/-- **Skipped nodes leave no trace.** Keep of a graph the nodes with a mapping and the edges between
them. The plan has the same resources, with the same names, properties and dependencies in the same
order, and the same warnings. Generation succeeds for the one graph just if it does for the other,
and what it yields, or the account of its failure, differs in nothing but the skipped nodes. -/
theorem skipped_nodes_leave_no_trace (target : Target) (g : Graph) :
    let g' := g.withoutSkipped target
    (Plan.ofGraph target g').resources = (Plan.ofGraph target g).resources ∧
      (Plan.ofGraph target g').warnings = (Plan.ofGraph target g).warnings ∧
      (generate target g').isOk = (generate target g).isOk ∧
      generate target g' =
        ((generate target g).map fun a => { a with skipped := [] }).mapError fun f =>
          { f with account := { f.account with skipped := [] } } := by
  intro g'
  have hplan : Plan.ofGraph target g' = { Plan.ofGraph target g with skipped := [] } :=
    Plan.ofGraph_withoutSkipped target g
  have hdocuments : target.documents (Plan.ofGraph target g') =
      target.documents (Plan.ofGraph target g) :=
    target.documents_eq_of_resources (hplan ▸ rfl)
  have hgenerate : generate target g' =
      ((generate target g).map fun a => { a with skipped := [] }).mapError fun f =>
        { f with account := { f.account with skipped := [] } } := by
    dsimp only [generate]
    rw [hdocuments, hplan]
    cases target.documents (Plan.ofGraph target g) with
    | ok documents => rfl
    | error cause => cases cause <;> rfl
  refine ⟨hplan ▸ rfl, hplan ▸ rfl, ?_, hgenerate⟩
  rw [hgenerate]
  cases generate target g <;> rfl

end CloudGraph

import CloudGraph.Proofs.Check.Retraced
import CloudGraph.Proofs.Generate.Plan.Resources
import CloudGraph.Proofs.Generate.Unread

/-!
# Parallel edges

An edge whose source and target an earlier edge joins already says nothing new
(`parallel_edge_idempotent`), whatever its id. It is asked for in three ways.

* *Steps.* From its source it leads once more to a node that the first edge leads to, so the graph
  retraces the one without it (`Graph.retraces_withParallel`).
* *Touching.* It touches the nodes that the first edge touches.
* *Dependencies.* An edge that was taken has its arrow in the table, or its source leads to its
  target there (`Wired.closing`). The table refuses its copy in both cases, in the second as the
  copy of an edge that was dropped (`table_wireEdge_of_mem`).

Only a dropped edge is noticed twice: the plan has one warning more.
-/

namespace CloudGraph

namespace Graph

/-- One more edge, with the ends of a given one. -/
def withParallel (g : Graph) (e : Edge) (id : String) : Graph :=
  { g with edges := g.edges ++ [{ e with id }] }

variable {g : Graph} {e : Edge}

theorem retraces_withParallel (he : e ∈ g.edges) (id : String) :
    g.Retraces (g.withParallel e id) where
  nodes := rfl
  outgoing := by
    intro n _
    have hsplit : (g.withParallel e id).outgoing n.id = g.outgoing n.id ++
        ([{ e with id }].filter (fun e : Edge => e.source == n.id)).filterMap
          fun e => g.node? e.target := by
      show List.filterMap _ (List.filter _ (g.edges ++ [{ e with id }])) = _
      rw [List.filter_append, List.filterMap_append]
      rfl
    refine ⟨_, hsplit, ?_⟩
    intro m hm
    obtain ⟨e', he', htarget⟩ := List.mem_filterMap.1 hm
    obtain ⟨hcopy, hsource⟩ := List.mem_filter.1 he'
    rw [List.mem_singleton.1 hcopy] at hsource htarget
    exact List.mem_filterMap.2 ⟨e, List.mem_filter.2 ⟨he, hsource⟩, htarget⟩

theorem isTouched_withParallel (he : e ∈ g.edges) (id : String) (n : Node) :
    (g.withParallel e id).isTouched n = g.isTouched n := by
  show (g.edges ++ [{ e with id }]).any (·.touches n.id) = g.edges.any (·.touches n.id)
  rw [List.any_append, List.any_cons, List.any_nil, Bool.or_false]
  cases htouches : Edge.touches { e with id } n.id with
  | false => exact Bool.or_false _
  | true =>
    have hfirst : g.edges.any (·.touches n.id) = true := List.any_eq_true.2 ⟨e, he, htouches⟩
    rw [hfirst, Bool.or_true]

end Graph

/-! ## Plans -/

namespace Plan

variable {target : Target} {g : Graph} {e : Edge}

/-- The copy of an edge that was taken leaves the table as it is. -/
theorem table_wireEdge_of_mem {ids : List String} {edges : List Edge}
    {wired : DependencyTable × List Edge} (h : Wired ids edges wired) (he : e ∈ edges)
    (id : String) : (wireEdge ids wired { e with id }).1 = wired.1 := by
  unfold wireEdge
  split
  · next source target hsource htarget =>
    have hsettled : wired.1.Arrow target source ∨ wired.1.Leads source target :=
      h.closing e he source target ⟨hsource, htarget⟩
    rcases wired.1.add_cases source target with ⟨-, hadd⟩ | ⟨-, -, hadd⟩ | ⟨hmissing, hlead, -⟩
    · rw [hadd]
    · rw [hadd]
    · exact absurd hsettled (not_or.2 ⟨hmissing, hlead⟩)
  · rfl

theorem dependencies_withParallel (he : e ∈ g.edges) (id : String) :
    dependencies target (g.withParallel e id) = dependencies target g := by
  show (wire (mappedIds target g) (g.edges ++ [{ e with id }])).1 = _
  unfold wire
  rw [List.foldl_append]
  exact table_wireEdge_of_mem (wired_wire (mappedIds target g) g.edges) he id

theorem dropped_withParallel (he : e ∈ g.edges) (id : String) :
    (wire (mappedIds target g) (g.withParallel e id).edges).2 =
      (wire (mappedIds target g) g.edges).2 ++
        [{ e with id }].filter (lost (mappedIds target g) (dependencies target g)) := by
  have htable : (wire (mappedIds target g) (g.withParallel e id).edges).1 =
      dependencies target g := dependencies_withParallel he id
  rw [(wired_wire _ _).dropped, (wired_wire _ g.edges).dropped, htable]
  exact List.filter_append _ _

/-- The plan is the same, with one warning more if the edge is a dropped one. -/
theorem ofGraph_withParallel (he : e ∈ g.edges) (id : String) :
    ofGraph target (g.withParallel e id) =
      { ofGraph target g with
        warnings := (ofGraph target g).warnings ++
          ([{ e with id }].filter (lost (mappedIds target g) (dependencies target g))).map
            droppedWarning } := by
  have htable : (wire (mappedIds target g) (g.withParallel e id).edges).1 =
      (wire (mappedIds target g) g.edges).1 := dependencies_withParallel he id
  show Plan.mk _ _ _ = Plan.mk _ _ _
  congr 1
  · show List.filterMap (resourceAt? _ _ (wire (mappedIds target g) _).1)
      (wire (mappedIds target g) _).1.order = _
    rw [htable]
    rfl
  · show List.map droppedWarning (wire (mappedIds target g) _).2 = _
    rw [dropped_withParallel he id, List.map_append]
    rfl

end Plan

/-! ## Documents -/

/-- The documents that are generated, or why there are none. -/
def generated (target : Target) (g : Graph) : Except DocumentError (List GeneratedDocument) :=
  ((generate target g).map (·.documents)).mapError (·.cause)

theorem generated_eq (target : Target) (g : Graph) :
    generated target g = target.documents (Plan.ofGraph target g) := by
  dsimp only [generated, generate]
  cases target.documents (Plan.ofGraph target g) <;> rfl

/-- No document shows the warnings. -/
theorem documents_setWarnings (target : Target) (p : Plan) (warnings : List String) :
    target.documents { p with warnings } = target.documents p :=
  target.documents_eq_of_resources rfl

/-- **Parallel edges are idempotent.** Take an edge of a graph, and let another with its source and
its target, and any id, follow at the end. All reports are the same, the findings of the heuristics
and all checks of a run; and for each target the plan has the same resources, with the same names
and dependencies in the same order, and the same documents are generated. -/
theorem parallel_edge_idempotent {g : Graph} {e : Edge} (he : e ∈ g.edges) (id : String) :
    let g' := g.withParallel e id
    (∀ framework time, evaluateFramework g' framework time = evaluateFramework g framework time) ∧
      evaluateHeuristics g' = evaluateHeuristics g ∧
      (∀ limits, runChecks g' limits = runChecks g limits) ∧
      ∀ target, (Plan.ofGraph target g').resources = (Plan.ofGraph target g).resources ∧
        generated target g' = generated target g := by
  intro g'
  have hretraces : g.Retraces g' := Graph.retraces_withParallel he id
  have htouched : ∀ n ∈ g.nodes, n.hasAnyRole Rule.ambient = false →
      g'.isTouched n = g.isTouched n := fun n _ _ => Graph.isTouched_withParallel he id n
  obtain ⟨hreports, hheuristics⟩ := findings_eq_of_touched hretraces.nodes htouched
  refine ⟨hreports, hheuristics, ?checks, fun target => ⟨?resources, ?documents⟩⟩
  case checks =>
    exact hretraces.runChecks_eq (Connectivity.orphanChecks_eq_of_touched hretraces.nodes htouched)
  case resources => rw [Plan.ofGraph_withParallel he id]
  case documents =>
    rw [generated_eq, generated_eq, Plan.ofGraph_withParallel he id, documents_setWarnings]

/-- The second edge that closes the cycle is dropped like the first. -/
theorem parallel_edge_idempotent_cycle :
    let g : Graph := {
      nodes := [Node.ofType "lb" "aws-alb", Node.ofType "api" "aws-ec2", Node.ofType "db" "aws-rds"]
      edges := [⟨"e1", "lb", "api"⟩, ⟨"e2", "api", "db"⟩, ⟨"e3", "db", "lb"⟩] }
    let g' : Graph := { g with edges := g.edges ++ [⟨"e4", "db", "lb"⟩] }
    (⟨"e3", "db", "lb"⟩ : Edge) ∈ g.edges ∧
      (Plan.ofGraph .terraform g).warnings.length = 1 ∧
      (Plan.ofGraph .terraform g').warnings.length = 2 ∧
      (Plan.ofGraph .terraform g').resources = (Plan.ofGraph .terraform g).resources ∧
      generated .terraform g' = generated .terraform g ∧
      runChecks g' {} = runChecks g {} := by
  intro g g'
  have he : (⟨"e3", "db", "lb"⟩ : Edge) ∈ g.edges := by decide +kernel
  obtain ⟨-, -, hchecks, hplans⟩ := parallel_edge_idempotent he "e4"
  exact ⟨he, by decide +kernel, by decide +kernel, (hplans .terraform).1, (hplans .terraform).2,
    hchecks {}⟩

end CloudGraph

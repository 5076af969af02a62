import CloudGraph.Proofs.Check.Retraced

/-!
# Dangling edges

An edge dangles if one of its ends names no node. No walk takes such an edge, and no check of a
tier or of a load balancer counts it: from a node, the graph without its dangling edges takes the
same steps (`retraces_withoutDangling`). So the analyses are the same with and without them, up to
one question.

**Has the node an edge at all?** A dangling edge is an edge of the end that exists. A node *hangs*
if it has edges and all of them dangle (`Graph.Hangs`). Without the dangling edges the nodes that
hang are isolated too: the isolation rules name them (`mem_namedBy_withoutDangling`), and the
orphan check does (`mem_orphans_withoutDangling`). This is the only difference
(`dangling_edges_inert_but_isolation`), and where a node hangs that is not exempt, it is one.
-/

namespace CloudGraph

namespace Graph

/-- Whether an end of the edge names no node. -/
def dangles (g : Graph) (e : Edge) : Bool :=
  !g.contains e.source || !g.contains e.target

def withoutDangling (g : Graph) : Graph :=
  { g with edges := g.edges.filter (!g.dangles ·) }

theorem nodes_withoutDangling (g : Graph) : g.withoutDangling.nodes = g.nodes := rfl

/-- The node has edges, and all of them dangle. -/
def Hangs (g : Graph) (n : Node) : Prop :=
  (∃ e ∈ g.edges, e.touches n.id = true) ∧
    ∀ e ∈ g.edges, e.touches n.id = true → g.dangles e = true

/-- No node hangs but ambient ones, which need no edge. -/
def NoneHangs (g : Graph) : Prop :=
  ∀ n ∈ g.nodes, n.hasAnyRole Rule.ambient = false → ¬ g.Hangs n

variable {g : Graph}

theorem contains_of_mem {n : Node} (h : n ∈ g.nodes) : g.contains n.id = true :=
  List.find?_isSome.2 ⟨n, h, beq_self_eq_true n.id⟩

/-- A dangling edge of a node leads nowhere. -/
theorem retraces_withoutDangling (g : Graph) : g.Retraces g.withoutDangling where
  nodes := g.nodes_withoutDangling
  outgoing := by
    intro n hn
    refine ⟨[], ?_, List.nil_subset _⟩
    rw [List.append_nil]
    show ((g.edges.filter (!g.dangles ·)).filter (·.source == n.id)).filterMap
        (fun e => g.node? e.target) = g.outgoing n.id
    unfold Graph.outgoing
    rw [List.filter_filter, List.filterMap_filter, List.filterMap_filter]
    refine List.filterMap_congr fun e _ => ?_
    by_cases hsource : e.source = n.id
    · have hcontains : g.contains n.id = true := contains_of_mem hn
      cases htarget : g.node? e.target with
      | none => simp
      | some m =>
        have htarget' : g.contains e.target = true := Option.isSome_iff_exists.2 ⟨m, htarget⟩
        simp [dangles, hsource, hcontains, htarget']
    · simp [hsource]

/-- Without the dangling edges no edge is left at a node that has none, or that hangs. -/
theorem isTouched_withoutDangling_eq_false_iff {n : Node} :
    g.withoutDangling.isTouched n = false ↔ g.isTouched n = false ∨ g.Hangs n := by
  have hleft : g.withoutDangling.isTouched n = false ↔
      ∀ e ∈ g.edges, e.touches n.id = true → g.dangles e = true := by
    simp only [isTouched, withoutDangling, List.any_eq_false, List.mem_filter, and_imp,
      Bool.not_eq_true', Bool.not_eq_true]
    grind
  have hnone : g.isTouched n = false ↔ ¬ ∃ e ∈ g.edges, e.touches n.id = true := by
    simp [isTouched]
  rw [hleft, hnone, Hangs]
  constructor
  · intro hall
    by_cases hsome : ∃ e ∈ g.edges, e.touches n.id = true
    · exact .inr ⟨hsome, hall⟩
    · exact .inl hsome
  · rintro (hnone | ⟨-, hall⟩)
    · exact fun e he htouches => absurd ⟨e, he, htouches⟩ hnone
    · exact hall

theorem isTouched_withoutDangling {n : Node} (h : ¬ g.Hangs n) :
    g.withoutDangling.isTouched n = g.isTouched n := by
  have hiff := isTouched_withoutDangling_eq_false_iff (g := g) (n := n)
  rw [or_iff_left h] at hiff
  cases htouched : g.isTouched n with
  | false => exact hiff.2 htouched
  | true => exact Bool.eq_true_of_not_eq_false fun hfalse => by simp [hiff.1 hfalse] at htouched

theorem NoneHangs.isTouched_eq (h : g.NoneHangs) :
    ∀ n ∈ g.nodes, n.hasAnyRole Rule.ambient = false →
      g.withoutDangling.isTouched n = g.isTouched n :=
  fun n hn hexempt => isTouched_withoutDangling (h n hn hexempt)

end Graph

variable {g : Graph}

/-! ## Rules -/

/-- No framework but SOC 2 has a rule about isolated nodes. -/
theorem evaluateFramework_withoutDangling {framework : Framework} (h : framework ≠ .soc2)
    (time : Timestamp) :
    evaluateFramework g.withoutDangling framework time = evaluateFramework g framework time := by
  have htable : ∀ framework ∈ Framework.all, framework ≠ .soc2 →
      ∀ r ∈ framework.rules, r.pattern.exempt? = none := by
    decide +kernel
  have hall : framework ∈ Framework.all := by cases framework <;> decide
  unfold evaluateFramework runRules
  rw [List.flatMap_congr fun r hr =>
    evaluate_eq_of_exempt? g.nodes_withoutDangling (htable framework hall h r hr)]

theorem mem_offenders_isolation_withoutDangling {exempt : List Role} {n : Node} :
    n ∈ (Pattern.isolation exempt).offenders g.withoutDangling ↔
      n ∈ (Pattern.isolation exempt).offenders g ∨
        (n ∈ g.nodes ∧ n.hasAnyRole exempt = false ∧ g.Hangs n) := by
  rw [mem_offenders_isolation_iff, mem_offenders_isolation_iff, g.nodes_withoutDangling,
    Graph.isTouched_withoutDangling_eq_false_iff]
  tauto

/-- The findings of a run are the same apart from those of one rule, if no other rule of the run
looks for isolated nodes. -/
theorem filter_runRules_withoutDangling {rules : List Rule} {ruleId : String}
    (h : ∀ r ∈ rules, r.id ≠ ruleId → r.pattern.exempt? = none) :
    (runRules rules g.withoutDangling).filter (·.ruleId != ruleId) =
      (runRules rules g).filter (·.ruleId != ruleId) := by
  unfold runRules
  rw [List.filter_flatMap, List.filter_flatMap]
  refine List.flatMap_congr fun r hr => ?_
  by_cases hid : r.id = ruleId
  · have hnone : ∀ g, (r.evaluate g).filter (·.ruleId != ruleId) = [] := fun g =>
      List.filter_eq_nil_iff.2 fun f hf => by simp [Rule.ruleId_of_mem_evaluate hf, hid]
    rw [hnone, hnone]
  · rw [evaluate_eq_of_exempt? g.nodes_withoutDangling (h r hr hid)]

/-- The ids of the nodes that the findings of a rule name. -/
def namedBy (ruleId : String) (findings : List Finding) : List String :=
  (findings.filter (·.ruleId == ruleId)).flatMap (·.affected)

section Run

variable {rules : List Rule} {ruleId : String} (hnodup : (rules.map (·.id)).Nodup)
  (hrule : ∃ r ∈ rules, r.id = ruleId ∧ r.pattern = .isolation Rule.ambient)
include hnodup hrule

theorem namedBy_runRules (g : Graph) :
    namedBy ruleId (runRules rules g) =
      ((Pattern.isolation Rule.ambient).offenders g).map (·.id) := by
  obtain ⟨r, hr, rfl, hp⟩ := hrule
  unfold namedBy
  rw [filter_ruleId_runRules hnodup hr, Rule.flatMap_affected_evaluate, hp]

theorem mem_namedBy_withoutDangling {id : String} :
    id ∈ namedBy ruleId (runRules rules g.withoutDangling) ↔
      id ∈ namedBy ruleId (runRules rules g) ∨
        ∃ n ∈ g.nodes, n.id = id ∧ n.hasAnyRole Rule.ambient = false ∧ g.Hangs n := by
  rw [namedBy_runRules hnodup hrule, namedBy_runRules hnodup hrule, List.mem_map, List.mem_map]
  simp only [mem_offenders_isolation_withoutDangling]
  constructor
  · rintro ⟨n, hn | ⟨hn, hexempt, hhangs⟩, hid⟩
    · exact .inl ⟨n, hn, hid⟩
    · exact .inr ⟨n, hn, hid, hexempt, hhangs⟩
  · rintro (⟨n, hn, hid⟩ | ⟨n, hn, hid, hexempt, hhangs⟩)
    · exact ⟨n, .inl hn, hid⟩
    · exact ⟨n, .inr ⟨hn, hexempt, hhangs⟩, hid⟩

/-- A run that finds the same without the dangling edges speaks of a graph where no node hangs. -/
theorem noneHangs_of_runRules_eq (h : runRules rules g.withoutDangling = runRules rules g) :
    g.NoneHangs := by
  intro n hn hexempt hhangs
  -- All that were isolated still are, so with as many offenders there are no others.
  have hsub : ((Pattern.isolation Rule.ambient).offenders g).Sublist
      ((Pattern.isolation Rule.ambient).offenders g.withoutDangling) := by
    refine List.monotone_filter_right _ fun m hm => ?_
    obtain ⟨hneeds, huntouched⟩ := Bool.and_eq_true_iff.1 hm
    have hstill : g.withoutDangling.isTouched m = false :=
      Graph.isTouched_withoutDangling_eq_false_iff.2
        (.inl (Bool.eq_false_of_not_eq_true' huntouched))
    exact Bool.and_eq_true_iff.2 ⟨hneeds, congrArg not hstill⟩
  have hlength : ((Pattern.isolation Rule.ambient).offenders g).length =
      ((Pattern.isolation Rule.ambient).offenders g.withoutDangling).length := by
    have hnamed := congrArg (namedBy ruleId) h
    rw [namedBy_runRules hnodup hrule, namedBy_runRules hnodup hrule] at hnamed
    simpa using (congrArg List.length hnamed).symm
  have hisolated : n ∈ (Pattern.isolation Rule.ambient).offenders g := by
    rw [hsub.eq_of_length hlength]
    exact mem_offenders_isolation_withoutDangling.2 (.inr ⟨hn, hexempt, hhangs⟩)
  obtain ⟨-, -, htouched⟩ := mem_offenders_isolation_iff.1 hisolated
  obtain ⟨e, he, htouches⟩ := hhangs.1
  exact List.any_eq_false.1 htouched e he htouches

end Run

/-! ## Checks -/

theorem mem_orphans_withoutDangling {n : Node} :
    n ∈ Connectivity.orphans g.withoutDangling ↔
      n ∈ Connectivity.orphans g ∨
        (n ∈ g.nodes ∧ n.hasAnyRole Rule.ambient = false ∧ g.Hangs n) := by
  rw [Connectivity.mem_orphans_iff, Connectivity.mem_orphans_iff, g.nodes_withoutDangling,
    Graph.isTouched_withoutDangling_eq_false_iff]
  tauto

theorem isEmpty_orphans_withoutDangling :
    (Connectivity.orphans g.withoutDangling).isEmpty = true ↔
      (Connectivity.orphans g).isEmpty = true ∧ g.NoneHangs := by
  rw [List.isEmpty_iff, List.isEmpty_iff, List.eq_nil_iff_forall_not_mem,
    List.eq_nil_iff_forall_not_mem]
  simp only [mem_orphans_withoutDangling]
  constructor
  · intro hnone
    exact ⟨fun n hn => hnone n (.inl hn),
      fun n hn hexempt hhangs => hnone n (.inr ⟨hn, hexempt, hhangs⟩)⟩
  · rintro ⟨hnone, hhang⟩ n (hn | ⟨hn, hexempt, hhangs⟩)
    · exact hnone n hn
    · exact hhang n hn hexempt hhangs

/-- The second check is the first, or both are the orphan check, and the second passes just if the
first does and no node hangs. -/
def Graph.SameButOrphans (g : Graph) (c c' : Check) : Prop :=
  c' = c ∨ c.id = "conn-orphans" ∧ c'.id = "conn-orphans" ∧
    (c'.status = .pass ↔ c.status = .pass ∧ g.NoneHangs)

theorem sameButOrphans_orphanChecks :
    List.Forall₂ g.SameButOrphans (Connectivity.orphanChecks g)
      (Connectivity.orphanChecks g.withoutDangling) := by
  have hcandidates : Connectivity.edgeCandidates g.withoutDangling =
      Connectivity.edgeCandidates g := rfl
  have hpass : ∀ passes : Bool, (if passes then Status.pass else .warning) = .pass ↔
      passes = true := by decide
  unfold Connectivity.orphanChecks
  rw [hcandidates]
  split_ifs
  · exact .nil
  · refine .cons (.inr ⟨rfl, rfl, ?_⟩) .nil
    dsimp only
    rw [hpass, hpass]
    exact isEmpty_orphans_withoutDangling

/-- **Dangling edges are inert but for the question whether a node has an edge.** Delete from a
graph all edges with an end that names no node.

* The reports of all frameworks but SOC 2 are the same, and so are all findings of SOC 2 and of the
  heuristics but those of the two isolation rules, and all checks but the orphan check.
* The isolation rules name the nodes that they named and those that hang; and the orphan check
  passes just if it did and none hangs.
* So the SOC 2 report is the same just if no node hangs that is not ambient, and so are the
  heuristics; and then all checks are. -/
theorem dangling_edges_inert_but_isolation (g : Graph) :
    let g' := g.withoutDangling
    (∀ framework ≠ .soc2, ∀ time,
        evaluateFramework g' framework time = evaluateFramework g framework time) ∧
      (∀ time, (evaluateFramework g' .soc2 time).findings.filter (·.ruleId != "soc2-cc8.1") =
        (evaluateFramework g .soc2 time).findings.filter (·.ruleId != "soc2-cc8.1")) ∧
      (evaluateHeuristics g').filter (·.ruleId != "cost-idle-resource") =
        (evaluateHeuristics g).filter (·.ruleId != "cost-idle-resource") ∧
      (∀ limits, List.Forall₂ g.SameButOrphans (runChecks g limits) (runChecks g' limits)) ∧
      (∀ time id, id ∈ namedBy "soc2-cc8.1" (evaluateFramework g' .soc2 time).findings ↔
        id ∈ namedBy "soc2-cc8.1" (evaluateFramework g .soc2 time).findings ∨
          ∃ n ∈ g.nodes, n.id = id ∧ n.hasAnyRole Rule.ambient = false ∧ g.Hangs n) ∧
      (∀ id, id ∈ namedBy "cost-idle-resource" (evaluateHeuristics g') ↔
        id ∈ namedBy "cost-idle-resource" (evaluateHeuristics g) ∨
          ∃ n ∈ g.nodes, n.id = id ∧ n.hasAnyRole Rule.ambient = false ∧ g.Hangs n) ∧
      (∀ time, evaluateFramework g' .soc2 time = evaluateFramework g .soc2 time ↔ g.NoneHangs) ∧
      (evaluateHeuristics g' = evaluateHeuristics g ↔ g.NoneHangs) ∧
      (g.NoneHangs → ∀ limits, runChecks g' limits = runChecks g limits) := by
  intro g'
  have hnodes : g'.nodes = g.nodes := g.nodes_withoutDangling
  have hsoc2 : ∃ r ∈ Framework.soc2.rules,
      r.id = "soc2-cc8.1" ∧ r.pattern = .isolation Rule.ambient := by decide +kernel
  have hidle : ∃ r ∈ Rule.heuristics,
      r.id = "cost-idle-resource" ∧ r.pattern = .isolation Rule.ambient := by decide +kernel
  have hids := Framework.soc2.nodup_ruleIds
  refine ⟨fun framework h time => evaluateFramework_withoutDangling h time, fun time => ?soc2,
    ?heuristics, fun limits => ?checks, fun time id => ?soc2Named, fun id => ?idleNamed,
    fun time => ⟨?soc2Hangs, ?soc2Same⟩, ⟨?idleHangs, ?idleSame⟩, ?checksSame⟩
  case soc2 => exact filter_runRules_withoutDangling (by decide +kernel)
  case heuristics => exact filter_runRules_withoutDangling (by decide +kernel)
  case checks =>
    exact g.retraces_withoutDangling.forall₂_runChecks (fun _ => .inl rfl)
      sameButOrphans_orphanChecks limits
  case soc2Named => exact mem_namedBy_withoutDangling hids hsoc2
  case idleNamed => exact mem_namedBy_withoutDangling nodup_heuristicRuleIds hidle
  case soc2Hangs =>
    intro hreport
    exact noneHangs_of_runRules_eq hids hsoc2 (congrArg ComplianceReport.findings hreport)
  case soc2Same => exact fun h => (findings_eq_of_touched hnodes h.isTouched_eq).1 .soc2 time
  case idleHangs => exact noneHangs_of_runRules_eq nodup_heuristicRuleIds hidle
  case idleSame => exact fun h => (findings_eq_of_touched hnodes h.isTouched_eq).2
  case checksSame =>
    intro h limits
    exact g.retraces_withoutDangling.runChecks_eq
      (Connectivity.orphanChecks_eq_of_touched hnodes h.isTouched_eq) limits

/-- An edge to a node that does not exist hides that its source is isolated. -/
theorem dangling_edge_hides_isolated_node :
    let g : Graph := {
      nodes := [(Node.ofType "q" "aws-sqs").withLabel "jobs"]
      edges := [⟨"e1", "q", "ghost"⟩] }
    let g' := g.withoutDangling
    let time : Timestamp := { seconds := 0 }
    let orphanStatuses := fun g : Graph =>
      ((runChecks g {}).filter (·.id == "conn-orphans")).map (·.status)
    g'.edges = [] ∧
      (evaluateFramework g .soc2 time).findings = [] ∧
      (evaluateFramework g' .soc2 time).findings.map (·.affected) = [["q"]] ∧
      (evaluateFramework g .soc2 time).score = 100 ∧
      (evaluateFramework g' .soc2 time).score = 95 ∧
      evaluateHeuristics g = [] ∧
      (evaluateHeuristics g').map (·.id) = ["cost-idle-resource:q"] ∧
      orphanStatuses g = [.pass] ∧ orphanStatuses g' = [.warning] := by
  decide +kernel

end CloudGraph

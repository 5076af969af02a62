import CloudGraph.Check.Suites
import CloudGraph.Proofs.Graph.Reachability

/-!
# What fails the gate

A run of the checks passes the gate if no check of it fails. Suite by suite, this file says for
which graphs a check fails: a tier is cut off, a load balancer feeds no compute node, a setting
is unsafe, a firewall or a backup is missing, or the estimate is over the ceiling. Every other
check warns at most.

The connectivity checks search from a node for one of another role, and the search never finds
the node it starts from. That it need not is a fact about the roles: no component type is both a
frontend and a backend, or both a backend and a database.
-/

namespace CloudGraph

variable {g : Graph}

/-- Some check of a run fails. -/
def Fails (checks : List Check) : Prop := ∃ c ∈ checks, c.status = .fail

theorem gate_eq_false_iff_fails (checks : List Check) :
    (CheckSummary.ofChecks checks).gate = false ↔ Fails checks := by
  unfold CheckSummary.gate CheckSummary.ofChecks Fails
  rw [beq_eq_false_iff_ne, ← Nat.pos_iff_ne_zero, List.countP_pos_iff]
  simp only [beq_iff_eq]

@[simp] theorem not_fails_nil : ¬ Fails [] := by
  simp [Fails]

@[simp] theorem fails_cons {c : Check} {checks : List Check} :
    Fails (c :: checks) ↔ c.status = .fail ∨ Fails checks := by
  simp [Fails]

@[simp] theorem fails_append {a b : List Check} : Fails (a ++ b) ↔ Fails a ∨ Fails b := by
  simp [Fails, or_and_right, exists_or]

@[simp] theorem fails_map {f : Node → Check} {nodes : List Node} :
    Fails (nodes.map f) ↔ ∃ n ∈ nodes, (f n).status = .fail := by
  simp [Fails]

@[simp] theorem fails_ite {p : Prop} [Decidable p] {checks : List Check} :
    Fails (if p then checks else []) ↔ p ∧ Fails checks := by
  split_ifs with h <;> simp [h]

theorem hasRole_iff {role : Role} : g.hasRole role = true ↔ g.withRole role ≠ [] := by
  unfold Graph.hasRole Graph.withRole
  rw [List.any_eq_true, Ne, List.filter_eq_nil_iff]
  simp

theorem mem_withRole_iff {role : Role} {n : Node} :
    n ∈ g.withRole role ↔ n ∈ g.nodes ∧ n.hasRole role = true :=
  List.mem_filter

/-! ## Connectivity -/

namespace Connectivity

theorem Tier.status_check_iff {t : Tier} {n : Node} :
    (t.check g n).status = .fail ↔ g.reachable? n.id (·.hasRole t.target) = none := by
  unfold Tier.check
  cases g.reachable? n.id (·.hasRole t.target) <;> simp

/-- A tier fails if some node of the source role has no path to a node of the target role,
though there are such nodes. -/
theorem Tier.fails_iff (t : Tier) (hroles : ∀ key ∈ t.source.typeKeys, key ∉ t.target.typeKeys)
    (h : (g.nodes.map (·.id)).Nodup) :
    Fails (t.checks g) ↔ g.withRole t.target ≠ [] ∧
      ∃ n ∈ g.withRole t.source, ∀ m ∈ g.withRole t.target, ¬ g.Path n.id m.id := by
  unfold Tier.checks
  rw [fails_ite, fails_map, hasRole_iff]
  refine and_congr_right fun _ => exists_congr fun n => and_congr_right fun hn => ?_
  rw [Tier.status_check_iff, Graph.reachable?_eq_none_iff]
  constructor
  · intro hnone m hm
    obtain ⟨hmem, hrole⟩ := mem_withRole_iff.1 hm
    refine hnone m (Graph.node?_of_mem h hmem) (fun hid => ?_) hrole
    -- The two would be one node, and that holds both roles.
    obtain ⟨hn, hsource⟩ := mem_withRole_iff.1 hn
    obtain rfl := List.inj_on_of_nodup_map h hmem hn hid
    exact hroles m.componentType (List.contains_iff_mem.1 hsource) (List.contains_iff_mem.1 hrole)
  · intro hnone m hm _ hrole
    exact hnone m (mem_withRole_iff.2 ⟨Graph.mem_of_node? hm, hrole⟩)

theorem mem_distinct {a : String} {xs : List String} : a ∈ distinct xs ↔ a ∈ xs := by
  have hfold : ∀ seen : List String,
      a ∈ xs.foldl (fun seen x => if seen.contains x then seen else seen ++ [x]) seen ↔
        a ∈ seen ∨ a ∈ xs := by
    induction xs with
    | nil => simp
    | cons x xs ih =>
      intro seen
      rw [List.foldl_cons, ih, List.mem_cons]
      split_ifs with hx
      · rw [List.contains_iff_mem] at hx
        constructor
        · rintro (h | h)
          · exact .inl h
          · exact .inr (.inr h)
        · rintro (h | rfl | h)
          · exact .inl h
          · exact .inl hx
          · exact .inr h
      · rw [List.mem_append, List.mem_singleton, or_assoc]
  unfold distinct
  rw [hfold]
  simp

theorem nodup_distinct (xs : List String) : (distinct xs).Nodup := by
  have hfold : ∀ seen : List String, seen.Nodup →
      (xs.foldl (fun seen x => if seen.contains x then seen else seen ++ [x]) seen).Nodup := by
    induction xs with
    | nil => exact fun seen hseen => hseen
    | cons x xs ih =>
      intro seen hseen
      rw [List.foldl_cons]
      apply ih
      split_ifs with hx
      · exact hseen
      · rw [List.contains_iff_mem] at hx
        refine List.nodup_append.2 ⟨hseen, List.nodup_singleton x, ?_⟩
        intro a ha b hb heq
        rw [heq, List.mem_singleton.1 hb] at ha
        exact hx ha
  exact hfold [] List.nodup_nil

theorem status_fanOutCheck_iff {lb : Node} :
    (fanOutCheck g lb).status = .fail ↔ fanOutTargets g lb = [] := by
  unfold fanOutCheck
  rcases fanOutTargets g lb with _ | ⟨a, _ | ⟨b, rest⟩⟩ <;> simp

theorem mem_fanOutTargets_iff {lb : Node} {id : String} :
    id ∈ fanOutTargets g lb ↔
      ∃ m, g.node? m.id = some m ∧ m.hasRole .compute = true ∧ g.Step lb.id m.id ∧ m.id = id := by
  unfold fanOutTargets
  rw [mem_distinct, List.mem_map]
  refine exists_congr fun m => ?_
  rw [List.mem_filter, Graph.mem_outgoing_iff]
  tauto

theorem fanOutChecks_fails_iff (h : (g.nodes.map (·.id)).Nodup) :
    Fails (fanOutChecks g) ↔ g.withRole .compute ≠ [] ∧
      ∃ n ∈ g.withRole .loadBalancer, ∀ m ∈ g.withRole .compute,
        ¬ ∃ e ∈ g.edges, e.source = n.id ∧ e.target = m.id := by
  unfold fanOutChecks
  rw [fails_ite, fails_map, hasRole_iff]
  refine and_congr_right fun _ => exists_congr fun n => and_congr_right fun _ => ?_
  rw [status_fanOutCheck_iff, List.eq_nil_iff_forall_not_mem]
  constructor
  · rintro hnone m hm ⟨e, he, hsource, htarget⟩
    obtain ⟨hmem, hrole⟩ := mem_withRole_iff.1 hm
    have hm := Graph.node?_of_mem h hmem
    refine hnone m.id (mem_fanOutTargets_iff.2 ⟨m, hm, hrole, ?_, rfl⟩)
    exact ⟨e, he, hsource, htarget, Option.isSome_iff_exists.2 ⟨m, hm⟩⟩
  · intro hnone id hid
    obtain ⟨m, hm, hrole, ⟨e, he, hsource, htarget, -⟩, -⟩ := mem_fanOutTargets_iff.1 hid
    exact hnone m (mem_withRole_iff.2 ⟨Graph.mem_of_node? hm, hrole⟩) ⟨e, he, hsource, htarget⟩

theorem not_fails_orphanChecks : ¬ Fails (orphanChecks g) := by
  unfold orphanChecks
  split_ifs
  · exact not_fails_nil
  · by_cases h : orphans g = [] <;> simp [h]

end Connectivity

/-! ## Security -/

namespace Security

theorem status_storageCheck_iff {n : Node} :
    (storageCheck n).status = .fail ↔ n.view.flag? .encryption ≠ some true := by
  unfold storageCheck
  by_cases h : n.view.flag? .encryption = some true <;> simp [h]

theorem status_databaseCheck_iff {n : Node} :
    (databaseCheck n).status = .fail ↔ n.view.flag? .publicAccess = some true := by
  unfold databaseCheck
  by_cases h : n.view.flag? .publicAccess = some true <;> simp [h]

theorem status_loadBalancerCheck_iff {n : Node} :
    (loadBalancerCheck n).status = .fail ↔ n.view.flag? .tls ≠ some true := by
  unfold loadBalancerCheck
  by_cases h : n.view.flag? .tls = some true <;> simp [h]

theorem firewallChecks_fails_iff :
    Fails (firewallChecks g) ↔ g.withRole .compute ≠ [] ∧ g.withRole .firewall = [] := by
  unfold firewallChecks
  rw [fails_ite, hasRole_iff]
  refine and_congr_right fun _ => ?_
  by_cases h : g.withRole .firewall = [] <;> simp [h]

theorem checks_fails_iff :
    Fails (checks g) ↔
      (∃ n ∈ g.withRole .storage, n.view.flag? .encryption ≠ some true) ∨
      (∃ n ∈ g.withRole .database, n.view.flag? .publicAccess = some true) ∨
      (g.withRole .compute ≠ [] ∧ g.withRole .firewall = []) ∨
      ∃ n ∈ g.withRole .loadBalancer, n.view.flag? .tls ≠ some true := by
  simp only [checks, fails_append, fails_map, firewallChecks_fails_iff, or_assoc,
    status_storageCheck_iff, status_databaseCheck_iff, status_loadBalancerCheck_iff]

end Security

/-! ## Cost -/

namespace Cost

theorem estimateStatus_eq_fail_iff {limits : CostLimits} {estimate : Float} :
    estimateStatus limits estimate = .fail ↔ limits.monthlyCeiling < estimate := by
  unfold estimateStatus
  split_ifs with hover <;> simp [hover]

theorem status_of_sizeCheck? {n : Node} {c : Check} (h : sizeCheck? n = some c) :
    c.status ≠ .fail := by
  obtain ⟨size, -, rfl⟩ := Option.map_eq_some_iff.1 h
  cases isListed largeInstanceSizes size <;> simp

theorem checks_fails_iff {limits : CostLimits} :
    Fails (checks g limits) ↔ g.nodes ≠ [] ∧ limits.monthlyCeiling < estimate g := by
  unfold checks Graph.isEmpty
  by_cases h : g.nodes = []
  · simp [h]
  · rw [if_neg (mt List.isEmpty_iff.1 h), fails_cons, and_iff_right h]
    refine ⟨fun hfail => ?_, fun hover => .inl (estimateStatus_eq_fail_iff.2 hover)⟩
    rcases hfail with hfail | ⟨c, hc, hfail⟩
    · exact estimateStatus_eq_fail_iff.1 hfail
    · obtain ⟨n, -, hn⟩ := List.mem_filterMap.1 hc
      exact absurd hfail (status_of_sizeCheck? hn)

end Cost

/-! ## Configuration -/

namespace Redundancy

theorem backupChecks_fails_iff :
    Fails (backupChecks g) ↔ g.withRole .database ≠ [] ∧ g.withRole .backup = [] := by
  unfold backupChecks
  rw [fails_ite, hasRole_iff]
  refine and_congr_right fun _ => ?_
  by_cases h : g.withRole .backup = [] <;> simp [h]

theorem status_replicasCheck (n : Node) : (replicasCheck n).status ≠ .fail := by
  unfold replicasCheck
  by_cases h : minReplicas ≤ n.view.replicas <;> simp [h]

theorem status_standbyCheck (n : Node) : (standbyCheck n).status ≠ .fail := by
  unfold standbyCheck
  by_cases h : n.view.flag? .highAvailability = some true <;> simp [h]

theorem checks_fails_iff :
    Fails (checks g) ↔ g.withRole .database ≠ [] ∧ g.withRole .backup = [] := by
  unfold checks
  rw [fails_append, fails_append, fails_map, fails_map, backupChecks_fails_iff]
  simp [status_replicasCheck, status_standbyCheck]

end Redundancy

/-! ## The gate -/

theorem runChecks_eq (g : Graph) (limits : CostLimits) :
    runChecks g limits =
      Connectivity.checks g ++ Security.checks g ++ Cost.checks g limits ++
        Redundancy.checks g := by
  simp [runChecks, Suite.all, Suite.checks]

/-- **The gate.** For a graph with distinct node ids, the gate is closed just if a tier is cut
off from the next, a load balancer feeds no compute node, a setting of a storage node, database
or load balancer is unsafe, compute nodes have no firewall, the estimate is over the ceiling, or
databases have no backup. -/
theorem gate_closed_iff (g : Graph) (limits : CostLimits) (h : (g.nodes.map (·.id)).Nodup) :
    (CheckSummary.ofChecks (runChecks g limits)).gate = false ↔
      (g.withRole .backend ≠ [] ∧
        ∃ n ∈ g.withRole .frontend, ∀ m ∈ g.withRole .backend, ¬ g.Path n.id m.id) ∨
      (g.withRole .database ≠ [] ∧
        ∃ n ∈ g.withRole .backend, ∀ m ∈ g.withRole .database, ¬ g.Path n.id m.id) ∨
      (g.withRole .compute ≠ [] ∧
        ∃ n ∈ g.withRole .loadBalancer, ∀ m ∈ g.withRole .compute,
          ¬ ∃ e ∈ g.edges, e.source = n.id ∧ e.target = m.id) ∨
      (∃ n ∈ g.withRole .storage, n.view.flag? .encryption ≠ some true) ∨
      (∃ n ∈ g.withRole .database, n.view.flag? .publicAccess = some true) ∨
      (g.withRole .compute ≠ [] ∧ g.withRole .firewall = []) ∨
      (∃ n ∈ g.withRole .loadBalancer, n.view.flag? .tls ≠ some true) ∨
      (g.nodes ≠ [] ∧ limits.monthlyCeiling < Cost.estimate g) ∨
      (g.withRole .database ≠ [] ∧ g.withRole .backup = []) := by
  have hfrontend := Connectivity.frontendTier.fails_iff (by decide) h
  have hbackend := Connectivity.backendTier.fails_iff (by decide) h
  have hconnectivity : Fails (Connectivity.checks g) ↔
      Fails (Connectivity.frontendTier.checks g) ∨ Fails (Connectivity.backendTier.checks g) ∨
        Fails (Connectivity.fanOutChecks g) := by
    simp only [Connectivity.checks, fails_append, or_assoc, Connectivity.not_fails_orphanChecks,
      or_false]
  rw [gate_eq_false_iff_fails, runChecks_eq, fails_append, fails_append, fails_append,
    hconnectivity, hfrontend, hbackend, Connectivity.fanOutChecks_fails_iff h,
    Security.checks_fails_iff, Cost.checks_fails_iff, Redundancy.checks_fails_iff]
  simp only [or_assoc]
  rfl

theorem gate_closed_web_cycle :
    ∃ g : Graph,
      g = {
        nodes := [Node.ofType "web" "web-frontend", Node.ofType "edge" "cdn",
          Node.ofType "api" "api-server"]
        edges := [⟨"e1", "web", "edge"⟩, ⟨"e2", "edge", "web"⟩, ⟨"e3", "api", "web"⟩,
          ⟨"e4", "edge", "ghost"⟩] } ∧
      (g.nodes.map (·.id)).Nodup ∧
      (CheckSummary.ofChecks (runChecks g {})).gate = false := by
  refine ⟨_, rfl, by decide +kernel, ?_⟩
  refine (gate_closed_iff _ _ (by decide +kernel)).2 (.inl ?_)
  refine (Connectivity.frontendTier.fails_iff (by decide) (by decide +kernel)).1 ?_
  unfold Fails
  decide +kernel

end CloudGraph

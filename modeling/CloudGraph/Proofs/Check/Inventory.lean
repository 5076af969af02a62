import CloudGraph.Proofs.Check.Agreement

/-!
# What a run of the checks holds

**Theorem (`checks_inventory`).** In a graph with distinct node ids the checks of a run have
distinct ids, they stand suite by suite, and each of them has run and names existing nodes, none
twice. A kind of check that is about one node has a check for each node of its role, in the order of
the declarations, if it applies to the graph; if not, it has none.

* *Each check* (`Check.BelongsTo`) is looked at by itself. Most name nodes that were picked from the
  declarations, and those come with distinct ids. A tier names the node it starts from and the one
  it finds, and the search never finds where it started. A load balancer is no compute node, so it
  is not among those it feeds.
* *Each kind* has either one check at most or one for each of some nodes (`OneForEach`). Its checks
  have distinct ids either way, and the checks of two kinds differ before the colon.
-/

namespace CloudGraph

variable {g : Graph} {limits : CostLimits}

/-! ## Each check -/

/-- A check of a suite that has run and names nodes of the graph, each once. -/
structure Check.BelongsTo (g : Graph) (suite : Suite) (c : Check) : Prop where
  suite_eq : c.suite = suite
  ran : c.status ≠ .skipped
  nodup : c.affected.Nodup
  subset : c.affected ⊆ g.nodes.map (·.id)

/-- A check may name nodes picked from the declarations. -/
theorem Check.belongsTo_of_sublist {suite : Suite} {c : Check} {nodes : List Node}
    (h : (g.nodes.map (·.id)).Nodup) (hnodes : nodes.Sublist g.nodes)
    (haffected : c.affected = nodes.map (·.id)) (hsuite : c.suite = suite)
    (hran : c.status ≠ .skipped) : c.BelongsTo g suite where
  suite_eq := hsuite
  ran := hran
  nodup := haffected ▸ h.sublist (hnodes.map _)
  subset := haffected ▸ (hnodes.map _).subset

/-- A check may name the one node it is about. -/
theorem Check.belongsTo_of_node {suite : Suite} {c : Check} {n : Node}
    (h : (g.nodes.map (·.id)).Nodup) (hn : n ∈ g.nodes) (haffected : c.affected = [n.id])
    (hsuite : c.suite = suite) (hran : c.status ≠ .skipped) : c.BelongsTo g suite :=
  belongsTo_of_sublist h (List.singleton_sublist.2 hn) haffected hsuite hran

theorem withRole_sublist (role : Role) : (g.withRole role).Sublist g.nodes :=
  List.filter_sublist

theorem ite_ne_skipped {p : Prop} [Decidable p] {a b : Status} (ha : a ≠ .skipped)
    (hb : b ≠ .skipped) : (if p then a else b) ≠ .skipped := by
  split_ifs
  · exact ha
  · exact hb

namespace Connectivity

theorem Tier.belongsTo_check (t : Tier) {n : Node} (h : (g.nodes.map (·.id)).Nodup)
    (hn : n ∈ g.nodes) : (t.check g n).BelongsTo g .connectivity := by
  unfold Tier.check
  cases hsearch : g.reachable? n.id (·.hasRole t.target) with
  | none => exact Check.belongsTo_of_node h hn rfl rfl (by simp)
  | some m =>
    obtain ⟨hm, hne, -⟩ := Graph.mem_reachableFrom_iff.1 (List.mem_of_find?_eq_some hsearch)
    refine ⟨rfl, by simp, by simpa using hne.symm, ?_⟩
    exact List.cons_subset.2 ⟨List.mem_map_of_mem hn, List.cons_subset.2
      ⟨List.mem_map_of_mem (Graph.mem_of_node? hm), List.nil_subset _⟩⟩

/-- A load balancer is not among the compute nodes that it feeds. -/
theorem id_notMem_fanOutTargets {lb : Node} (h : (g.nodes.map (·.id)).Nodup)
    (hlb : lb ∈ g.withRole .loadBalancer) : lb.id ∉ fanOutTargets g lb := by
  have hroles : ∀ key ∈ Role.loadBalancer.typeKeys, key ∉ Role.compute.typeKeys := by decide
  intro hid
  obtain ⟨m, hm, hcompute, -, hid⟩ := mem_fanOutTargets_iff.1 hid
  obtain ⟨hmem, hbalancer⟩ := mem_withRole_iff.1 hlb
  obtain rfl := List.inj_on_of_nodup_map h (Graph.mem_of_node? hm) hmem hid
  exact hroles m.componentType (List.contains_iff_mem.1 hbalancer)
    (List.contains_iff_mem.1 hcompute)

theorem belongsTo_fanOutCheck {lb : Node} (h : (g.nodes.map (·.id)).Nodup)
    (hlb : lb ∈ g.withRole .loadBalancer) : (fanOutCheck g lb).BelongsTo g .connectivity where
  suite_eq := rfl
  ran := by
    unfold fanOutCheck
    rcases fanOutTargets g lb with _ | ⟨a, _ | ⟨b, rest⟩⟩ <;> simp
  nodup := List.nodup_cons.2 ⟨id_notMem_fanOutTargets h hlb, nodup_distinct _⟩
  subset := by
    refine List.cons_subset.2 ⟨List.mem_map_of_mem (mem_withRole_iff.1 hlb).1, fun id hid => ?_⟩
    obtain ⟨m, hm, -, -, rfl⟩ := mem_fanOutTargets_iff.1 hid
    exact List.mem_map_of_mem (Graph.mem_of_node? hm)

theorem belongsTo_checks (h : (g.nodes.map (·.id)).Nodup) :
    ∀ c ∈ checks g, c.BelongsTo g .connectivity := by
  have htier : ∀ t : Tier, ∀ c ∈ t.checks g, c.BelongsTo g .connectivity := by
    intro t c hc
    obtain ⟨n, hn, rfl⟩ := List.mem_map.1 (List.mem_ite_nil_right.1 hc).2
    exact t.belongsTo_check h (mem_withRole_iff.1 hn).1
  have hfanOut : ∀ c ∈ fanOutChecks g, c.BelongsTo g .connectivity := by
    intro c hc
    obtain ⟨n, hn, rfl⟩ := List.mem_map.1 (List.mem_ite_nil_right.1 hc).2
    exact belongsTo_fanOutCheck h hn
  have horphans : ∀ c ∈ orphanChecks g, c.BelongsTo g .connectivity := by
    intro c hc
    obtain rfl := List.mem_singleton.1 (List.mem_ite_nil_left.1 hc).2
    exact Check.belongsTo_of_sublist h (List.filter_sublist.trans List.filter_sublist) rfl rfl
      (ite_ne_skipped (by simp) (by simp))
  simp only [checks, List.forall_mem_append]
  exact ⟨⟨⟨htier frontendTier, htier backendTier⟩, hfanOut⟩, horphans⟩

end Connectivity

/-- The checks of one kind may each name the node they are about. -/
theorem belongsTo_of_mem_map {suite : Suite} {role : Role} {check : Node → Check}
    (h : (g.nodes.map (·.id)).Nodup) (haffected : ∀ n, (check n).affected = [n.id])
    (hsuite : ∀ n, (check n).suite = suite) (hran : ∀ n, (check n).status ≠ .skipped) :
    ∀ c ∈ (g.withRole role).map check, c.BelongsTo g suite := by
  intro c hc
  obtain ⟨n, hn, rfl⟩ := List.mem_map.1 hc
  exact Check.belongsTo_of_node h (mem_withRole_iff.1 hn).1 (haffected n) (hsuite n) (hran n)

theorem Security.belongsTo_checks (h : (g.nodes.map (·.id)).Nodup) :
    ∀ c ∈ checks g, c.BelongsTo g .security := by
  have hfirewall : ∀ c ∈ firewallChecks g, c.BelongsTo g .security := by
    intro c hc
    obtain rfl := List.mem_singleton.1 (List.mem_ite_nil_right.1 hc).2
    refine Check.belongsTo_of_sublist h ?_ rfl rfl (ite_ne_skipped (by simp) (by simp))
    split_ifs
    · exact withRole_sublist _
    · exact withRole_sublist _
  simp only [checks, List.forall_mem_append]
  exact ⟨⟨⟨belongsTo_of_mem_map h (fun _ => rfl) (fun _ => rfl) fun _ =>
        ite_ne_skipped (by simp) (by simp),
      belongsTo_of_mem_map h (fun _ => rfl) (fun _ => rfl) fun _ =>
        ite_ne_skipped (by simp) (by simp)⟩,
    hfirewall⟩,
    belongsTo_of_mem_map h (fun _ => rfl) (fun _ => rfl) fun _ =>
      ite_ne_skipped (by simp) (by simp)⟩

theorem Cost.belongsTo_checks (h : (g.nodes.map (·.id)).Nodup) :
    ∀ c ∈ checks g limits, c.BelongsTo g .cost := by
  intro c hc
  rcases List.mem_cons.1 (List.mem_ite_nil_left.1 hc).2 with rfl | hc
  · have hran : estimateStatus limits (estimate g) ≠ .skipped :=
      ite_ne_skipped (by simp) (ite_ne_skipped (by simp) (by simp))
    exact Check.belongsTo_of_sublist h (List.nil_sublist _) rfl rfl hran
  · obtain ⟨n, hn, hsize⟩ := List.mem_filterMap.1 hc
    obtain ⟨size, -, rfl⟩ := Option.map_eq_some_iff.1 hsize
    refine Check.belongsTo_of_node h (mem_withRole_iff.1 hn).1 rfl rfl ?_
    dsimp only
    split_ifs <;> simp

theorem Redundancy.belongsTo_checks (h : (g.nodes.map (·.id)).Nodup) :
    ∀ c ∈ checks g, c.BelongsTo g .configuration := by
  have hbackup : ∀ c ∈ backupChecks g, c.BelongsTo g .configuration := by
    intro c hc
    obtain rfl := List.mem_singleton.1 (List.mem_ite_nil_right.1 hc).2
    refine Check.belongsTo_of_sublist h ?_ rfl rfl (ite_ne_skipped (by simp) (by simp))
    split_ifs
    · exact withRole_sublist _
    · exact withRole_sublist _
  simp only [checks, List.forall_mem_append]
  exact ⟨⟨belongsTo_of_mem_map h (fun _ => rfl) (fun _ => rfl) fun _ =>
      ite_ne_skipped (by simp) (by simp),
    belongsTo_of_mem_map h (fun _ => rfl) (fun _ => rfl) fun _ =>
      ite_ne_skipped (by simp) (by simp)⟩,
    hbackup⟩

theorem Suite.belongsTo_checks (suite : Suite) (h : (g.nodes.map (·.id)).Nodup) :
    ∀ c ∈ suite.checks g limits, c.BelongsTo g suite := by
  cases suite with
  | connectivity => exact Connectivity.belongsTo_checks h
  | security => exact Security.belongsTo_checks h
  | cost => exact Cost.belongsTo_checks h
  | configuration => exact Redundancy.belongsTo_checks h

/-! ## Each kind -/

/-- One check for each of the nodes, in their order. Its id is the kind and the id of the node, and
it names the node first. -/
def OneForEach (kind : String) (nodes : List Node) (checks : List Check) : Prop :=
  checks.map (fun c => (c.id, c.affected.head?)) =
    nodes.map fun n => (kind ++ ":" ++ n.id, some n.id)

/-- The kinds that are about one node, and the nodes that have such a check. A tier is checked if
there are nodes of the role behind it, and so are the load balancers. A size is checked where it is
stated. -/
def nodeKinds (g : Graph) : List (String × List Node) := [
  ("conn-frontend-backend", if g.hasRole .backend then g.withRole .frontend else []),
  ("conn-backend-database", if g.hasRole .database then g.withRole .backend else []),
  ("conn-lb-fan-out", if g.hasRole .compute then g.withRole .loadBalancer else []),
  ("sec-storage-encryption", g.withRole .storage),
  ("sec-database-public-access", g.withRole .database),
  ("sec-lb-tls", g.withRole .loadBalancer),
  ("cost-instance-size", (g.withRole .compute).filter (·.view.instanceSize?.isSome)),
  ("cfg-replicas", g.withRole .compute),
  ("cfg-database-ha", g.withRole .database)]

theorem sublist_of_mem_nodeKinds : ∀ part ∈ nodeKinds g, part.2.Sublist g.nodes := by
  have hguard : ∀ (p : Prop) [Decidable p] (role : Role),
      (if p then g.withRole role else []).Sublist g.nodes := fun p _ role => by
    split_ifs
    · exact withRole_sublist role
    · exact List.nil_sublist _
  simp only [nodeKinds, List.forall_mem_cons, List.not_mem_nil, false_imp_iff, implies_true,
    and_true]
  exact ⟨hguard _ _, hguard _ _, hguard _ _, withRole_sublist _, withRole_sublist _,
    withRole_sublist _, List.filter_sublist.trans (withRole_sublist _), withRole_sublist _,
    withRole_sublist _⟩

namespace OneForEach

variable {kind : String} {nodes : List Node} {check : Node → Check}

theorem of_map {start : String} (hstart : start = kind ++ ":")
    (hid : ∀ n, (check n).id = start ++ n.id)
    (hhead : ∀ n, (check n).affected.head? = some n.id) :
    OneForEach kind nodes (nodes.map check) := by
  unfold OneForEach
  rw [List.map_map]
  exact List.map_congr_left fun n _ => Prod.ext (hstart ▸ hid n) (hhead n)

theorem guard {checks : List Check} (h : OneForEach kind nodes checks) (p : Prop) [Decidable p] :
    OneForEach kind (if p then nodes else []) (if p then checks else []) := by
  split_ifs
  · exact h
  · rfl

theorem of_filterMap {check? : Node → Option Check}
    (h : ∀ n c, check? n = some c → c.id = kind ++ ":" ++ n.id ∧ c.affected.head? = some n.id) :
    OneForEach kind (nodes.filter fun n => (check? n).isSome) (nodes.filterMap check?) := by
  unfold OneForEach
  induction nodes with
  | nil => rfl
  | cons n nodes ih =>
    cases hcheck : check? n with
    | none => simpa [hcheck] using ih
    | some c =>
      obtain ⟨hid, hhead⟩ := h n c hcheck
      simpa [hcheck, hid, hhead] using ih

theorem map_id {checks : List Check} (h : OneForEach kind nodes checks) :
    checks.map (·.id) = (nodes.map (·.id)).map fun id => kind ++ ":" ++ id := by
  simpa [Function.comp_def] using congrArg (List.map Prod.fst) h

/-- The ids are as distinct as those of the nodes. -/
theorem nodup_ids {checks : List Check} (h : OneForEach kind nodes checks)
    (hnodes : (nodes.map (·.id)).Nodup) : (checks.map (·.id)).Nodup := by
  have hinjective : Function.Injective fun id => kind ++ ":" ++ id := fun _ _ heq =>
    (String.append_right_inj _).1 heq
  rw [h.map_id]
  exact hnodes.map hinjective

end OneForEach

theorem Connectivity.Tier.head_affected_check (t : Tier) (n : Node) :
    (t.check g n).affected.head? = some n.id := by
  unfold Tier.check
  cases g.reachable? n.id (·.hasRole t.target) <;> rfl

theorem Connectivity.Tier.oneForEach_checks (t : Tier) :
    OneForEach t.id (if g.hasRole t.target then g.withRole t.source else []) (t.checks g) :=
  (OneForEach.of_map rfl t.id_check t.head_affected_check).guard _

theorem Cost.oneForEach_sizeChecks : OneForEach "cost-instance-size"
    ((g.withRole .compute).filter (·.view.instanceSize?.isSome))
    (if g.isEmpty then [] else (g.withRole .compute).filterMap sizeCheck?) := by
  have hsizes : (if g.isEmpty then [] else (g.withRole .compute).filterMap sizeCheck?) =
      (g.withRole .compute).filterMap sizeCheck? := by
    split_ifs with hempty
    · unfold Graph.withRole
      rw [List.isEmpty_iff.1 hempty]
      rfl
    · rfl
  have hstated : ∀ n, n.view.instanceSize?.isSome = (sizeCheck? n).isSome := fun n =>
    Option.isSome_map.symm
  rw [hsizes, List.filter_congr fun n _ => hstated n]
  refine OneForEach.of_filterMap fun n c hc => ?_
  obtain ⟨size, -, rfl⟩ := Option.map_eq_some_iff.1 hc
  exact ⟨by simp, rfl⟩

theorem oneForEach_of_mem_nodeKinds (limits : CostLimits) : ∀ part ∈ nodeKinds g,
    OneForEach part.1 part.2 ((runChecks g limits).filter (·.kind == part.1)) := by
  have hpart : ∀ {kind nodes} (checks : List Check), (kind, checks) ∈ runParts g limits →
      OneForEach kind nodes checks →
        OneForEach kind nodes ((runChecks g limits).filter (·.kind == kind)) :=
    fun _ hpart h => filter_kind_runChecks hpart ▸ h
  have hrole : ∀ {kind start} (role : Role) (check : Node → Check),
      (kind, (g.withRole role).map check) ∈ runParts g limits → start = kind ++ ":" →
      (∀ n, (check n).id = start ++ n.id) → (∀ n, (check n).affected.head? = some n.id) →
        OneForEach kind (g.withRole role) ((runChecks g limits).filter (·.kind == kind)) :=
    fun _ _ hmem hstart hid hhead => hpart _ hmem (.of_map hstart hid hhead)
  simp only [nodeKinds, List.forall_mem_cons, List.not_mem_nil, false_imp_iff, implies_true,
    and_true]
  refine ⟨?frontend, ?backend, ?fanOut, ?storage, ?database, ?balancer, ?size, ?replicas, ?standby⟩
  case frontend =>
    exact hpart _ (by simp [runParts]) Connectivity.frontendTier.oneForEach_checks
  case backend =>
    exact hpart _ (by simp [runParts]) Connectivity.backendTier.oneForEach_checks
  case fanOut =>
    refine hpart (Connectivity.fanOutChecks g) (by simp [runParts]) (OneForEach.guard ?_ _)
    exact .of_map (by simp) (fun n => rfl) fun n => rfl
  case storage =>
    exact hrole .storage Security.storageCheck (by simp [runParts]) (by simp) (fun n => rfl)
      fun n => rfl
  case database =>
    exact hrole .database Security.databaseCheck (by simp [runParts]) (by simp) (fun n => rfl)
      fun n => rfl
  case balancer =>
    exact hrole .loadBalancer Security.loadBalancerCheck (by simp [runParts]) (by simp)
      (fun n => rfl) fun n => rfl
  case size =>
    exact hpart _ (by simp [runParts]) Cost.oneForEach_sizeChecks
  case replicas =>
    exact hrole .compute Redundancy.replicasCheck (by simp [runParts]) (by simp) (fun n => rfl)
      fun n => rfl
  case standby =>
    exact hrole .database Redundancy.standbyCheck (by simp [runParts]) (by simp) (fun n => rfl)
      fun n => rfl

/-- The checks of other kinds are about the graph as a whole. -/
theorem nodeKind_or_length_le_one : ∀ part ∈ runParts g limits,
    part.1 ∈ (nodeKinds g).map (·.1) ∨ part.2.length ≤ 1 := by
  have hguard : ∀ (p : Prop) [Decidable p] (c : Check), (if p then [c] else []).length ≤ 1 :=
    fun p _ c => by split_ifs <;> simp
  have hunless : ∀ (p : Prop) [Decidable p] (c : Check), (if p then [] else [c]).length ≤ 1 :=
    fun p _ c => by split_ifs <;> simp
  simp only [runParts, List.forall_mem_cons, List.not_mem_nil, false_imp_iff, implies_true,
    and_true]
  exact ⟨.inl (by simp [nodeKinds]), .inl (by simp [nodeKinds]), .inl (by simp [nodeKinds]),
    .inr (hunless _ _), .inl (by simp [nodeKinds]), .inl (by simp [nodeKinds]),
    .inr (hguard _ _), .inl (by simp [nodeKinds]), .inr (hunless _ _),
    .inl (by simp [nodeKinds]), .inl (by simp [nodeKinds]), .inl (by simp [nodeKinds]),
    .inr (hguard _ _)⟩

theorem nodup_id_runChecks (h : (g.nodes.map (·.id)).Nodup) :
    ((runChecks g limits).map (·.id)).Nodup := by
  have hpart : ∀ part ∈ runParts g limits, (part.2.map (·.id)).Nodup := by
    rintro ⟨kind, checks⟩ hpart
    rcases nodeKind_or_length_le_one _ hpart with hkind | hone
    · obtain ⟨⟨_, nodes⟩, hnodes, rfl⟩ := List.mem_map.1 hkind
      have hfor := oneForEach_of_mem_nodeKinds limits _ hnodes
      rw [filter_kind_runChecks hpart] at hfor
      exact hfor.nodup_ids (h.sublist ((sublist_of_mem_nodeKinds _ hnodes).map _))
    · rcases checks with _ | ⟨c, _ | ⟨c', rest⟩⟩
      · exact List.nodup_nil
      · exact List.nodup_singleton _
      · simp at hone
  rw [runChecks_eq_flatMap, List.map_flatMap, List.nodup_flatMap]
  refine ⟨hpart, ?_⟩
  have hpairs : (runParts g limits).Pairwise fun a b => a.1 ≠ b.1 :=
    List.pairwise_map.1 nodup_runParts
  refine hpairs.imp_of_mem fun {a b} ha hb hne => List.disjoint_left.2 ?_
  intro id hid hid'
  obtain ⟨c, hc, rfl⟩ := List.mem_map.1 hid
  obtain ⟨c', hc', heq⟩ := List.mem_map.1 hid'
  apply hne
  rw [← kind_of_mem_runParts a ha c hc, ← kind_of_mem_runParts b hb c' hc', Check.kind, Check.kind,
    heq]

/-! ## The run -/

theorem runChecks_eq_bySuite (h : (g.nodes.map (·.id)).Nodup) :
    runChecks g limits = Suite.all.flatMap fun suite =>
      (runChecks g limits).filter (·.suite == suite) := by
  have hsuite : ∀ suite ∈ Suite.all, ∀ c ∈ suite.checks g limits, c.suite = suite :=
    fun suite _ c hc => (suite.belongsTo_checks h c hc).suite_eq
  have hnodup : (Suite.all.map fun suite => suite).Nodup := by decide
  have hpart : ∀ suite ∈ Suite.all, suite.checks g limits =
      (runChecks g limits).filter (·.suite == suite) := fun suite hmem => by
    have hfilter := filter_flatMap_of_name hsuite hnodup hmem
    exact hfilter.symm
  conv_lhs => unfold runChecks
  exact List.flatMap_congr hpart

/-- **What a run holds.** In a graph with distinct node ids, whatever characters these have, the
checks of a run have distinct ids. They stand suite by suite: connectivity, security, cost and
configuration. No check is skipped, and each names nodes of the graph, none twice. The kinds that
are about one node have a check for each of their nodes, and no other checks. -/
theorem checks_inventory (g : Graph) (limits : CostLimits) (h : (g.nodes.map (·.id)).Nodup) :
    let run := runChecks g limits
    (run.map (·.id)).Nodup ∧
      run = [Suite.connectivity, .security, .cost, .configuration].flatMap (fun suite =>
        run.filter (·.suite == suite)) ∧
      (∀ c ∈ run, c.status ≠ .skipped ∧ c.affected.Nodup ∧ c.affected ⊆ g.nodes.map (·.id)) ∧
      ∀ part ∈ nodeKinds g, OneForEach part.1 part.2 (run.filter (·.kind == part.1)) := by
  refine ⟨nodup_id_runChecks h, runChecks_eq_bySuite h, fun c hc => ?_,
    oneForEach_of_mem_nodeKinds limits⟩
  obtain ⟨suite, -, hc⟩ := List.mem_flatMap.1 hc
  obtain ⟨-, hran, hnodup, hsubset⟩ := suite.belongsTo_checks h c hc
  exact ⟨hran, hnodup, hsubset⟩

/-- A node of two roles, parallel edges, a cycle, and ids that look like those of other checks. -/
theorem checks_inventory_two_roles :
    let g : Graph := {
      nodes := [Node.ofType "" "aws-ecs", Node.ofType ":" "aws-ecs",
        Node.ofType "replicas:" "aws-alb", Node.ofType "cfg-replicas:" "aws-rds"]
      edges := [⟨"e1", "", ":"⟩, ⟨"e2", ":", ""⟩, ⟨"e3", "replicas:", ""⟩,
        ⟨"e4", "replicas:", ""⟩, ⟨"e5", ":", "cfg-replicas:"⟩] }
    (g.nodes.map (·.id)).Nodup ∧ ((runChecks g {}).map (·.id)).Nodup ∧
      ((runChecks g {}).filter (·.kind == "conn-backend-database")).map (·.id) =
        ["conn-backend-database:", "conn-backend-database::"] := by
  intro g
  have hnodup : (g.nodes.map (·.id)).Nodup := by decide +kernel
  obtain ⟨hids, -, -, hkinds⟩ := checks_inventory g {} hnodup
  have htier := hkinds ("conn-backend-database", _) (.tail _ (.head _))
  have hnodes : (if g.hasRole .database then g.withRole .backend else []).map (·.id) =
      ["", ":"] := by decide +kernel
  exact ⟨hnodup, hids, htier.map_id.trans (congrArg (List.map _) hnodes)⟩

end CloudGraph

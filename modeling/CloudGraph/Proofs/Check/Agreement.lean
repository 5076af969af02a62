import CloudGraph.Proofs.Check.Gate
import CloudGraph.Proofs.Rule.Evaluation

/-!
# Checks and rules agree

Some checks ask what a rule of a framework asks too, in words of their own: their own roles,
their own polarity of a setting, their own guards against an empty graph. This file shows that
a run of the checks and the reports never contradict each other on these questions.

**Node by node** (`OnePerNode`). A rule about a setting names its offenders in one finding, and
a run has a check for each of them.

**All together** (`OneForAll`). Where a role is missing or nodes stand alone, there is one check
and one finding for the whole graph, or neither.

Both sides are long lists, of which the statement takes a part by name: the checks of a kind and
the findings of a rule. The names of the parts are pairwise distinct, so a part is the same
whether it is cut out of the whole or looked at alone (`filter_flatMap_of_name`).
-/

namespace CloudGraph

variable {g : Graph}

/-! ## The checks of a kind -/

/-- The kind of a check: its id, up to the colon that the id of a node follows. -/
def Check.kind (c : Check) : String :=
  String.ofList (c.id.toList.takeWhile (· ≠ ':'))

/-- The checks of a run by kind, in the order of the run. -/
def runParts (g : Graph) (limits : CostLimits) : List (String × List Check) := [
  ("conn-frontend-backend", Connectivity.frontendTier.checks g),
  ("conn-backend-database", Connectivity.backendTier.checks g),
  ("conn-lb-fan-out", Connectivity.fanOutChecks g),
  ("conn-orphans", Connectivity.orphanChecks g),
  ("sec-storage-encryption", (g.withRole .storage).map Security.storageCheck),
  ("sec-database-public-access", (g.withRole .database).map Security.databaseCheck),
  ("sec-network-security-group", Security.firewallChecks g),
  ("sec-lb-tls", (g.withRole .loadBalancer).map Security.loadBalancerCheck),
  ("cost-monthly-estimate", if g.isEmpty then [] else [Cost.estimateCheck g limits]),
  ("cost-instance-size",
    if g.isEmpty then [] else (g.withRole .compute).filterMap Cost.sizeCheck?),
  ("cfg-replicas", (g.withRole .compute).map Redundancy.replicasCheck),
  ("cfg-database-ha", (g.withRole .database).map Redundancy.standbyCheck),
  ("cfg-backup", Redundancy.backupChecks g)]

theorem runChecks_eq_flatMap (g : Graph) (limits : CostLimits) :
    runChecks g limits = (runParts g limits).flatMap (·.2) := by
  have hcost : Cost.checks g limits =
      (if g.isEmpty then [] else [Cost.estimateCheck g limits]) ++
        if g.isEmpty then [] else (g.withRole .compute).filterMap Cost.sizeCheck? := by
    unfold Cost.checks
    split_ifs <;> rfl
  rw [runChecks_eq, hcost]
  simp [runParts, Connectivity.checks, Security.checks, Redundancy.checks]

/-- All checks of a list are of one kind. -/
def AllOfKind (kind : String) (checks : List Check) : Prop := ∀ c ∈ checks, c.kind = kind

theorem allOfKind_singleton {kind : String} {c : Check} (h : c.kind = kind) :
    AllOfKind kind [c] := List.forall_mem_singleton.2 h

theorem allOfKind_map {kind : String} {f : Node → Check} {nodes : List Node}
    (h : ∀ n, (f n).kind = kind) : AllOfKind kind (nodes.map f) := by
  intro c hc
  obtain ⟨n, -, rfl⟩ := List.mem_map.1 hc
  exact h n

theorem AllOfKind.guard {kind : String} {checks : List Check} (h : AllOfKind kind checks)
    (p : Prop) [Decidable p] : AllOfKind kind (if p then checks else []) := by
  split_ifs
  · exact h
  · exact List.forall_mem_nil _

theorem AllOfKind.unless {kind : String} {checks : List Check} (h : AllOfKind kind checks)
    (p : Prop) [Decidable p] : AllOfKind kind (if p then [] else checks) := by
  split_ifs
  · exact List.forall_mem_nil _
  · exact h

/-- Where an id starts with some text, so does what stands before its colon. -/
theorem kind_of_id {c : Check} {start rest : String} (h : c.id = start ++ rest) :
    c.kind = String.ofList ((start.toList ++ rest.toList).takeWhile (· ≠ ':')) := by
  unfold Check.kind
  rw [h, String.toList_append]

theorem Connectivity.Tier.id_check (t : Tier) (n : Node) :
    (t.check g n).id = t.id ++ ":" ++ n.id := by
  unfold Tier.check
  cases g.reachable? n.id (·.hasRole t.target) <;> rfl

theorem Connectivity.Tier.kind_check (t : Tier) (h : ':' ∉ t.id.toList) (n : Node) :
    (t.check g n).kind = t.id := by
  show beforeColon (t.check g n).id = t.id
  rw [t.id_check, beforeColon_append h]

theorem kind_of_mem_runParts {limits : CostLimits} :
    ∀ part ∈ runParts g limits, AllOfKind part.1 part.2 := by
  simp only [runParts, List.forall_mem_cons, List.not_mem_nil, false_imp_iff, implies_true,
    and_true]
  refine ⟨(allOfKind_map fun n => ?_).guard _, (allOfKind_map fun n => ?_).guard _,
    (allOfKind_map fun n => ?_).guard _, (allOfKind_singleton ?_).unless _,
    allOfKind_map fun n => ?_, allOfKind_map fun n => ?_, (allOfKind_singleton ?_).guard _,
    allOfKind_map fun n => ?_, (allOfKind_singleton ?_).unless _, AllOfKind.unless ?_ _,
    allOfKind_map fun n => ?_, allOfKind_map fun n => ?_, (allOfKind_singleton ?_).guard _⟩
  · exact Connectivity.frontendTier.kind_check (by simp [Connectivity.frontendTier]) n
  · exact Connectivity.backendTier.kind_check (by simp [Connectivity.backendTier]) n
  · simp [kind_of_id (show (Connectivity.fanOutCheck g n).id = _ ++ n.id from rfl)]
  · simp [Check.kind]
  · simp [kind_of_id (show (Security.storageCheck n).id = _ ++ n.id from rfl)]
  · simp [kind_of_id (show (Security.databaseCheck n).id = _ ++ n.id from rfl)]
  · simp [Check.kind]
  · simp [kind_of_id (show (Security.loadBalancerCheck n).id = _ ++ n.id from rfl)]
  · simp [Check.kind, Cost.estimateCheck]
  · intro c hc
    obtain ⟨n, -, hn⟩ := List.mem_filterMap.1 hc
    obtain ⟨size, -, rfl⟩ := Option.map_eq_some_iff.1 hn
    simp [Check.kind, String.toList_append]
  · simp [kind_of_id (show (Redundancy.replicasCheck n).id = _ ++ n.id from rfl)]
  · simp [kind_of_id (show (Redundancy.standbyCheck n).id = _ ++ n.id from rfl)]
  · simp [Check.kind]

/-- The checks of a run that have a kind and a status. -/
def checksWith (kind : String) (status : Status) (checks : List Check) : List Check :=
  checks.filter fun c => c.kind == kind && c.status == status

theorem nodup_runParts {limits : CostLimits} : ((runParts g limits).map (·.1)).Nodup := by
  show ["conn-frontend-backend", "conn-backend-database", "conn-lb-fan-out", "conn-orphans",
    "sec-storage-encryption", "sec-database-public-access", "sec-network-security-group",
    "sec-lb-tls", "cost-monthly-estimate", "cost-instance-size", "cfg-replicas",
    "cfg-database-ha", "cfg-backup"].Nodup
  decide +kernel

theorem filter_kind_runChecks {limits : CostLimits} {kind : String} {checks : List Check}
    (h : (kind, checks) ∈ runParts g limits) :
    (runChecks g limits).filter (·.kind == kind) = checks := by
  rw [runChecks_eq_flatMap]
  exact filter_flatMap_of_name kind_of_mem_runParts nodup_runParts h

theorem checksWith_runChecks {limits : CostLimits} {kind : String} {checks : List Check}
    (h : (kind, checks) ∈ runParts g limits) (status : Status) :
    checksWith kind status (runChecks g limits) = checks.filter (·.status == status) := by
  unfold checksWith
  rw [← filter_kind_runChecks h, List.filter_filter]
  exact List.filter_congr fun c _ => Bool.and_comm ..

/-! ## The findings of a rule -/

/-- The findings of a rule in the report of a framework. -/
def findingsOf (ruleId : String) (report : ComplianceReport) : List Finding :=
  report.findings.filter (·.ruleId == ruleId)

/-- A rule of a framework has one finding with all offenders of its pattern, if there are any. -/
theorem affected_findingsOf {f : Framework} {ruleId : String} {p : Pattern} {time : Timestamp}
    (h : ∃ r ∈ f.rules, r.id = ruleId ∧ r.pattern = p) :
    (findingsOf ruleId (evaluateFramework g f time)).map (·.affected) =
      if p.offenders g = [] then [] else [(p.offenders g).map (·.id)] := by
  obtain ⟨r, hr, rfl, rfl⟩ := h
  have hfindings : findingsOf r.id (evaluateFramework g f time) = r.evaluate g :=
    filter_ruleId_runRules f.nodup_ruleIds hr
  rw [hfindings]
  unfold Rule.evaluate
  by_cases hnone : r.pattern.offenders g = []
  · simp [hnone]
  · simp [hnone, Framework.scope_of_mem_rules r hr, Rule.findingForAll, Rule.finding]

/-! ## Agreement -/

/-- Each node that the findings name has a check of its own, and the checks stand in the order
of the names. -/
def OnePerNode (checks : List Check) (findings : List Finding) : Prop :=
  checks.map (·.affected) = (findings.flatMap (·.affected)).map ([·])

/-- Each finding has a check that names the same nodes in the same order, and there are no other
checks. -/
def OneForAll (checks : List Check) (findings : List Finding) : Prop :=
  checks.map (·.affected) = findings.map (·.affected)

theorem hasAnyRole_singleton (n : Node) (role : Role) : n.hasAnyRole [role] = n.hasRole role := by
  simp [Node.hasAnyRole]

theorem filter_hasAnyRole_singleton (role : Role) :
    g.nodes.filter (·.hasAnyRole [role]) = g.withRole role :=
  List.filter_congr fun n _ => hasAnyRole_singleton n role

/-- Checks that name their node agree with a rule whose offenders are the nodes they speak
against. -/
theorem onePerNode_of_offenders {f : Framework} {ruleId : String} {p : Pattern}
    {time : Timestamp} {check : Node → Check} {nodes : List Node}
    (h : ∃ r ∈ f.rules, r.id = ruleId ∧ r.pattern = p) (hnodes : p.offenders g = nodes)
    (haffected : ∀ n, (check n).affected = [n.id]) :
    OnePerNode (nodes.map check) (findingsOf ruleId (evaluateFramework g f time)) := by
  have hnames : (findingsOf ruleId (evaluateFramework g f time)).flatMap (·.affected) =
      nodes.map (·.id) := by
    rw [List.flatMap_def, affected_findingsOf h, hnodes]
    split_ifs with hnone
    · rw [hnone]; rfl
    · rw [List.flatten_singleton]
  unfold OnePerNode
  rw [hnames, List.map_map, List.map_map]
  exact List.map_congr_left fun n _ => haffected n

/-- A rule about a setting agrees with a check that has a status just where the setting is
unsafe. -/
theorem onePerNode_configFlag (role : Role) (flag : Flag) (unsafeWhen : UnsafeWhen)
    (check : Node → Check) {f : Framework} {ruleId kind : String} {time : Timestamp}
    {limits : CostLimits} {status : Status}
    (hchecks : (kind, (g.withRole role).map check) ∈ runParts g limits)
    (hrule : ∃ r ∈ f.rules, r.id = ruleId ∧ r.pattern = .configFlag [role] flag unsafeWhen)
    (hstatus : ∀ n, (check n).status = status ↔ unsafeWhen.matches (n.view.flag? flag) = true)
    (haffected : ∀ n, (check n).affected = [n.id]) :
    OnePerNode (checksWith kind status (runChecks g limits))
      (findingsOf ruleId (evaluateFramework g f time)) := by
  have hoffenders : (Pattern.configFlag [role] flag unsafeWhen).offenders g =
      (g.withRole role).filter fun n => (check n).status == status := by
    show g.nodes.filter _ = (g.nodes.filter _).filter _
    rw [List.filter_filter]
    refine List.filter_congr fun n _ => ?_
    rw [hasAnyRole_singleton, Bool.and_comm,
      Bool.eq_iff_iff.2 ((hstatus n).symm.trans beq_iff_eq.symm)]
  rw [checksWith_runChecks hchecks, List.filter_map]
  exact onePerNode_of_offenders hrule hoffenders haffected

theorem Redundancy.status_standbyCheck_iff {n : Node} :
    (standbyCheck n).status = .warning ↔ n.view.flag? .highAvailability ≠ some true := by
  unfold standbyCheck
  by_cases h : n.view.flag? .highAvailability = some true <;> simp [h]

/-- A rule about a missing role agrees with a check that fails where there is no node of that
role, and then names the nodes that ask for one. -/
theorem oneForAll_roleAbsence (present absent : Role) {f : Framework} {ruleId kind : String}
    {time : Timestamp} {limits : CostLimits} {checks : List Check} {check : Check}
    (hpart : (kind, checks) ∈ runParts g limits)
    (hchecks : checks = if g.hasRole present then [check] else [])
    (hrule : ∃ r ∈ f.rules, r.id = ruleId ∧ r.pattern = .roleAbsence [present] absent)
    (hstatus : check.status = if (g.withRole absent).isEmpty then .fail else .pass)
    (haffected : check.affected =
      (if (g.withRole absent).isEmpty then g.withRole present else g.withRole absent).map (·.id)) :
    OneForAll (checksWith kind .fail (runChecks g limits))
      (findingsOf ruleId (evaluateFramework g f time)) := by
  have hoffenders : (Pattern.roleAbsence [present] absent).offenders g =
      if g.hasRole absent then [] else g.withRole present := by
    rw [← filter_hasAnyRole_singleton]
    rfl
  unfold OneForAll
  rw [checksWith_runChecks hpart, affected_findingsOf hrule, hoffenders, hchecks]
  by_cases hpresent : g.withRole present = []
  · have hrole : ¬ g.hasRole present = true := fun h => hasRole_iff.1 h hpresent
    simp [hrole, hpresent]
  · rw [if_pos (hasRole_iff.2 hpresent)]
    by_cases habsent : g.withRole absent = []
    · have hrole : ¬ g.hasRole absent = true := fun h => hasRole_iff.1 h habsent
      simp [hrole, hpresent, hstatus, haffected, habsent]
    · simp [hasRole_iff.2 habsent, hstatus, habsent]

theorem oneForAll_isolation {f : Framework} {ruleId : String} {time : Timestamp}
    {limits : CostLimits}
    (hrule : ∃ r ∈ f.rules, r.id = ruleId ∧ r.pattern = .isolation Connectivity.edgelessRoles) :
    OneForAll (checksWith "conn-orphans" .warning (runChecks g limits))
      (findingsOf ruleId (evaluateFramework g f time)) := by
  have hpart : ("conn-orphans", Connectivity.orphanChecks g) ∈ runParts g limits := by
    simp [runParts]
  have hoffenders : (Pattern.isolation Connectivity.edgelessRoles).offenders g =
      Connectivity.orphans g := by
    show g.nodes.filter _ = (g.nodes.filter _).filter _
    rw [List.filter_filter]
    refine List.filter_congr fun n _ => ?_
    have htouch : (g.edgesTouching n.id).isEmpty = !g.edges.any (·.touches n.id) := by
      unfold Graph.edgesTouching
      rw [Bool.eq_iff_iff, List.isEmpty_iff, List.filter_eq_nil_iff]
      simp
    rw [htouch, Bool.and_comm]
  unfold OneForAll
  rw [checksWith_runChecks hpart, affected_findingsOf hrule, hoffenders]
  unfold Connectivity.orphanChecks
  by_cases hnone : Connectivity.orphans g = []
  · by_cases hcandidates : (Connectivity.edgeCandidates g).isEmpty <;> simp [hnone, hcandidates]
  · have hcandidates : Connectivity.edgeCandidates g ≠ [] := fun h =>
      hnone (by simp [Connectivity.orphans, h])
    simp [hnone, hcandidates]

theorem View.one_le_replicas (v : View) : 1 ≤ v.replicas := by
  unfold replicas
  split_ifs
  · cases v.bag.integer? replicasKey with
    | none => exact Int.le_refl 1
    | some n => dsimp only; split_ifs with h <;> omega
  · exact Int.le_refl 1

theorem Redundancy.status_replicasCheck_iff {n : Node} :
    (replicasCheck n).status = .warning ↔ n.view.replicas = 1 := by
  have hpos := n.view.one_le_replicas
  unfold replicasCheck minReplicas
  by_cases h : 2 ≤ n.view.replicas
  · simp [h]; omega
  · simp [h]; omega

/-- A rule about single points of failure has a finding if every node of the role is one. -/
theorem findingsOf_singlePointOfFailure {f : Framework} {ruleId : String} {role : Role}
    {time : Timestamp}
    (hrule : ∃ r ∈ f.rules, r.id = ruleId ∧ r.pattern = .singlePointOfFailure role) :
    findingsOf ruleId (evaluateFramework g f time) ≠ [] ↔
      g.withRole role ≠ [] ∧ ∀ n ∈ g.withRole role, n.view.replicas = 1 := by
  have hoffenders : (Pattern.singlePointOfFailure role).offenders g ≠ [] ↔
      g.withRole role ≠ [] ∧ ∀ n ∈ g.withRole role, n.view.replicas = 1 := by
    show (if (g.withRole role).all (·.view.replicas == 1) then g.withRole role else []) ≠ [] ↔ _
    by_cases hall : (g.withRole role).all (·.view.replicas == 1) = true
    · have hsingle := List.all_eq_true.1 hall
      simp only [beq_iff_eq] at hsingle
      rw [if_pos hall, and_iff_left hsingle]
    · rw [if_neg hall]
      simp only [List.all_eq_true, beq_iff_eq] at hall
      simp [hall]
  rw [← hoffenders, Ne, ← List.map_eq_nil_iff, affected_findingsOf hrule]
  split_ifs with hnone <;> simp [hnone]

/-- **Checks and rules agree.** On every graph, whatever the limits of its costs: unencrypted
storage, public databases, load balancers without TLS and databases without a standby have one
check each just if the rule names them; missing firewalls, missing backups and orphans have one
check just if the rule has a finding, and both name the same nodes; and the rule about single
points of failure has a finding just if there are compute nodes and all of them have a warning
about their copies. -/
theorem rules_agree_with_checks (g : Graph) (limits : CostLimits) (time : Timestamp) :
    let run := runChecks g limits
    let report := fun f : Framework => evaluateFramework g f time
    OnePerNode (checksWith "sec-storage-encryption" .fail run)
        (findingsOf "cis-2.1" (report .cis)) ∧
      OnePerNode (checksWith "sec-database-public-access" .fail run)
        (findingsOf "cis-6.1" (report .cis)) ∧
      OnePerNode (checksWith "sec-lb-tls" .fail run) (findingsOf "cis-3.1" (report .cis)) ∧
      OnePerNode (checksWith "cfg-database-ha" .warning run)
        (findingsOf "hipaa-164.308a7-ha" (report .hipaa)) ∧
      OneForAll (checksWith "sec-network-security-group" .fail run)
        (findingsOf "cis-1.1" (report .cis)) ∧
      OneForAll (checksWith "cfg-backup" .fail run) (findingsOf "cis-4.1" (report .cis)) ∧
      OneForAll (checksWith "conn-orphans" .warning run)
        (findingsOf "soc2-cc8.1" (report .soc2)) ∧
      (findingsOf "soc2-a1.1" (report .soc2) ≠ [] ↔
        g.withRole .compute ≠ [] ∧
          ∀ c ∈ run, c.kind = "cfg-replicas" → c.status = .warning) := by
  intro run report
  refine ⟨?storage, ?database, ?loadBalancer, ?standby, ?firewall, ?backup, ?orphans, ?single⟩
  case storage =>
    refine onePerNode_configFlag .storage .encryption .isNotTrue Security.storageCheck
      (by simp [runParts]) (by decide +kernel) (fun n => ?_) fun n => rfl
    exact Security.status_storageCheck_iff.trans bne_iff_ne.symm
  case database =>
    refine onePerNode_configFlag .database .publicAccess .isTrue Security.databaseCheck
      (by simp [runParts]) (by decide +kernel) (fun n => ?_) fun n => rfl
    exact Security.status_databaseCheck_iff.trans beq_iff_eq.symm
  case loadBalancer =>
    refine onePerNode_configFlag .loadBalancer .tls .isNotTrue Security.loadBalancerCheck
      (by simp [runParts]) (by decide +kernel) (fun n => ?_) fun n => rfl
    exact Security.status_loadBalancerCheck_iff.trans bne_iff_ne.symm
  case standby =>
    refine onePerNode_configFlag .database .highAvailability .isNotTrue Redundancy.standbyCheck
      (by simp [runParts]) (by decide +kernel) (fun n => ?_) fun n => rfl
    exact Redundancy.status_standbyCheck_iff.trans bne_iff_ne.symm
  case firewall =>
    have hpart : ("sec-network-security-group", Security.firewallChecks g) ∈ runParts g limits := by
      simp [runParts]
    exact oneForAll_roleAbsence .compute .firewall hpart rfl (by decide +kernel) rfl rfl
  case backup =>
    have hpart : ("cfg-backup", Redundancy.backupChecks g) ∈ runParts g limits := by
      simp [runParts]
    exact oneForAll_roleAbsence .database .backup hpart rfl (by decide +kernel) rfl rfl
  case orphans =>
    exact oneForAll_isolation (by decide +kernel)
  case single =>
    have hpart : ("cfg-replicas", (g.withRole .compute).map Redundancy.replicasCheck) ∈
        runParts g limits := by simp [runParts]
    have hchecks : (∀ c ∈ run, c.kind = "cfg-replicas" → c.status = .warning) ↔
        ∀ n ∈ g.withRole .compute, n.view.replicas = 1 := by
      have hmem : ∀ c, c ∈ run ∧ c.kind = "cfg-replicas" ↔
          c ∈ (g.withRole .compute).map Redundancy.replicasCheck := fun c => by
        rw [← filter_kind_runChecks hpart, List.mem_filter, beq_iff_eq]
      constructor
      · intro hwarn n hn
        obtain ⟨hrun, hkind⟩ := (hmem _).2 (List.mem_map_of_mem hn)
        exact Redundancy.status_replicasCheck_iff.1 (hwarn _ hrun hkind)
      · intro hsingle c hrun hkind
        obtain ⟨n, hn, rfl⟩ := List.mem_map.1 ((hmem c).1 ⟨hrun, hkind⟩)
        exact Redundancy.status_replicasCheck_iff.2 (hsingle n hn)
    rw [hchecks]
    exact findingsOf_singlePointOfFailure (by decide +kernel)

end CloudGraph

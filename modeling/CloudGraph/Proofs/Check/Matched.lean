import CloudGraph.Proofs.Check.Gate
import CloudGraph.Proofs.Graph.Matched

/-!
# Checks of matching graphs

Four kinds of checks read a setting of yes or no, and each reads it of one node of a role. The
estimate of the cost reads the copies of every node, whether it holds a role or not. So on graphs
that match in roles, the checks of a run come in pairs, and two checks of a pair can only differ
where these five do (`Graph.MatchedInRoles.forall₂_runChecks`). Where all pairs are alike, the
estimate is the same too (`Graph.Matched.forall₂_runChecks`).
-/

namespace CloudGraph

variable {R : Node → Node → Prop} {g g' : Graph} {n m : Node}

/-! ## Connectivity -/

namespace Connectivity

theorem Tier.check_eq (h : g.MatchedInRoles R g') (t : Tier) (hnm : R n m) :
    t.check g' m = t.check g n := by
  have hfound := h.reachable? n.id t.target
  unfold Tier.check
  rw [h.id hnm, h.displayName_eq hnm]
  generalize g.reachable? n.id (·.hasRole t.target) = found,
    g'.reachable? n.id (·.hasRole t.target) = found' at hfound ⊢
  cases hfound with
  | none => rfl
  | some hpair => simp only [h.id hpair, h.displayName_eq hpair]

theorem Tier.checks_eq (h : g.MatchedInRoles R g') (t : Tier) : t.checks g' = t.checks g := by
  unfold Tier.checks
  rw [h.hasRole, map_eq_of_forall₂ (h.withRole t.source) (t.check_eq h)]

theorem fanOutCheck_eq (h : g.MatchedInRoles R g') (hnm : R n m) :
    fanOutCheck g' m = fanOutCheck g n := by
  have htargets : fanOutTargets g' m = fanOutTargets g n := by
    unfold fanOutTargets
    rw [h.id hnm, h.map_id (filter_of_forall₂ (h.outgoing n.id) fun hpair =>
      h.hasRole_eq hpair .compute)]
  unfold fanOutCheck
  rw [htargets, h.id hnm, h.displayName_eq hnm]

theorem fanOutChecks_eq (h : g.MatchedInRoles R g') : fanOutChecks g' = fanOutChecks g := by
  unfold fanOutChecks
  rw [h.hasRole, map_eq_of_forall₂ (h.withRole .loadBalancer) (fanOutCheck_eq h)]

theorem orphanChecks_eq (h : g.MatchedInRoles R g') : orphanChecks g' = orphanChecks g := by
  have hcandidates : List.Forall₂ R (edgeCandidates g) (edgeCandidates g') :=
    filter_of_forall₂ h.nodes fun hnm => by rw [h.hasAnyRole_eq hnm]
  have horphans : List.Forall₂ R (orphans g) (orphans g') :=
    filter_of_forall₂ hcandidates fun hnm => by
      unfold Graph.edgesTouching
      rw [h.edges, h.id hnm]
  dsimp only [orphanChecks]
  rw [isEmpty_eq_of_forall₂ hcandidates, isEmpty_eq_of_forall₂ horphans, h.map_id horphans,
    h.map_displayName horphans]

theorem checks_eq (h : g.MatchedInRoles R g') : checks g' = checks g := by
  unfold checks
  rw [frontendTier.checks_eq h, backendTier.checks_eq h, fanOutChecks_eq h, orphanChecks_eq h]

end Connectivity

/-! ## The other suites -/

theorem Security.firewallChecks_eq (h : g.MatchedInRoles R g') :
    firewallChecks g' = firewallChecks g := by
  have hfirewalls := h.withRole .firewall
  dsimp only [firewallChecks]
  rw [h.hasRole, isEmpty_eq_of_forall₂ hfirewalls, hfirewalls.length_eq,
    h.map_id (ite_of_forall₂ (h.withRole .compute) hfirewalls)]

namespace Cost

theorem nodeCost_eq (h : n.Alike m) : nodeCost m = nodeCost n := by
  unfold nodeCost
  rw [h.componentType, h.replicas]

/-- The estimate adds up the nodes in their order, so it is the same if each node costs the same. -/
theorem estimateCheck_eq (hnodes : List.Forall₂ R g.nodes g'.nodes)
    (hcost : ∀ {n m}, R n m → nodeCost m = nodeCost n) (limits : CostLimits) :
    estimateCheck g' limits = estimateCheck g limits := by
  have hestimate : estimate g' = estimate g := by
    unfold estimate
    rw [map_eq_of_forall₂ hnodes hcost]
  unfold estimateCheck
  rw [hestimate, hnodes.length_eq]

theorem sizeCheck?_eq (h : n.Alike m) : sizeCheck? m = sizeCheck? n := by
  unfold sizeCheck?
  rw [h.instanceSize?, h.id, h.displayName]

theorem sizeChecks_eq (h : g.MatchedInRoles R g') :
    (g'.withRole .compute).filterMap sizeCheck? = (g.withRole .compute).filterMap sizeCheck? := by
  have hmap := map_eq_of_forall₂ (h.alike_withRole .compute) fun hpair => sizeCheck?_eq hpair.2
  simpa only [List.filterMap_map, Function.id_comp] using congrArg (List.filterMap id) hmap

end Cost

theorem Redundancy.replicasCheck_eq (h : n.Alike m) : replicasCheck m = replicasCheck n := by
  unfold replicasCheck
  rw [h.replicas, h.id, h.displayName]

theorem Redundancy.backupChecks_eq (h : g.MatchedInRoles R g') :
    backupChecks g' = backupChecks g := by
  have hbackups := h.withRole .backup
  dsimp only [backupChecks]
  rw [h.hasRole, isEmpty_eq_of_forall₂ hbackups, hbackups.length_eq,
    h.map_id (ite_of_forall₂ (h.withRole .database) hbackups)]

/-! ## A run -/

/-- What the checks of a setting and the estimate keep, from the one graph to the other, a run
keeps. -/
theorem Graph.MatchedInRoles.forall₂_runChecks (h : g.MatchedInRoles R g')
    {S : Check → Check → Prop} {limits : CostLimits} (hrefl : ∀ c, S c c)
    (hestimate : S (Cost.estimateCheck g limits) (Cost.estimateCheck g' limits))
    (hstorage : ∀ {n m}, R n m → n.hasRole .storage = true →
      S (Security.storageCheck n) (Security.storageCheck m))
    (hdatabase : ∀ {n m}, R n m → n.hasRole .database = true →
      S (Security.databaseCheck n) (Security.databaseCheck m))
    (hbalancer : ∀ {n m}, R n m → n.hasRole .loadBalancer = true →
      S (Security.loadBalancerCheck n) (Security.loadBalancerCheck m))
    (hstandby : ∀ {n m}, R n m → n.hasRole .database = true →
      S (Redundancy.standbyCheck n) (Redundancy.standbyCheck m)) :
    List.Forall₂ S (runChecks g limits) (runChecks g' limits) := by
  have hsame : ∀ checks : List Check, List.Forall₂ S checks checks := fun checks =>
    List.forall₂_same.2 fun c _ => hrefl c
  have hpairs : ∀ {check : Node → Check} (role : Role),
      (∀ {n m}, R n m → n.hasRole role = true → S (check n) (check m)) →
      List.Forall₂ S ((g.withRole role).map check) ((g'.withRole role).map check) := by
    intro check role hcheck
    have hheld : List.Forall₂ (fun n m => R n m ∧ n.hasRole role = true) (g.withRole role)
        (g'.withRole role) :=
      filter_and_of_forall₂ h.nodes fun hnm => h.hasRole_eq hnm role
    exact List.rel_map (fun _ _ hpair => hcheck hpair.1 hpair.2) hheld
  have hcost : List.Forall₂ S (Cost.checks g limits) (Cost.checks g' limits) := by
    unfold Cost.checks
    rw [h.isEmpty, Cost.sizeChecks_eq h]
    exact ite_of_forall₂ .nil (.cons hestimate (hsame _))
  have hreplicas := map_eq_of_forall₂ (h.alike_withRole .compute) fun hpair =>
    Redundancy.replicasCheck_eq hpair.2
  rw [runChecks_eq, runChecks_eq, Connectivity.checks_eq h]
  unfold Security.checks Redundancy.checks
  rw [Security.firewallChecks_eq h, Redundancy.backupChecks_eq h, hreplicas]
  refine List.rel_append (List.rel_append (List.rel_append (hsame _) ?security) hcost)
    ?configuration
  case security =>
    exact List.rel_append (List.rel_append (List.rel_append (hpairs .storage hstorage)
      (hpairs .database hdatabase)) (hsame _)) (hpairs .loadBalancer hbalancer)
  case configuration =>
    exact List.rel_append (List.rel_append (hsame _) (hpairs .database hstandby)) (hsame _)

/-- What the checks of a setting keep, from the one node of a pair to the other, a run keeps from
the one graph to the other. -/
theorem Graph.Matched.forall₂_runChecks (h : g.Matched R g') {S : Check → Check → Prop}
    (hrefl : ∀ c, S c c)
    (hstorage : ∀ {n m}, R n m → S (Security.storageCheck n) (Security.storageCheck m))
    (hdatabase : ∀ {n m}, R n m → S (Security.databaseCheck n) (Security.databaseCheck m))
    (hbalancer : ∀ {n m}, R n m → S (Security.loadBalancerCheck n) (Security.loadBalancerCheck m))
    (hstandby : ∀ {n m}, R n m → S (Redundancy.standbyCheck n) (Redundancy.standbyCheck m))
    (limits : CostLimits) :
    List.Forall₂ S (runChecks g limits) (runChecks g' limits) := by
  refine h.inRoles.forall₂_runChecks hrefl ?_ (fun hnm _ => hstorage hnm)
    (fun hnm _ => hdatabase hnm) (fun hnm _ => hbalancer hnm) fun hnm _ => hstandby hnm
  rw [Cost.estimateCheck_eq h.nodes fun hnm => Cost.nodeCost_eq (h.alike hnm)]
  exact hrefl _

end CloudGraph

import CloudGraph.Proofs.Catalog.Role
import CloudGraph.Proofs.Check.Matched
import CloudGraph.Proofs.Generate.Unread
import CloudGraph.Rule.Report

/-!
# The family of a component

A node is stored with a category and a provider, and the catalog has a category for the types it
knows. The two may disagree. The category decides the family of the node, and with it which
settings the analyses see, so it matters which of them is asked.

**Theorem (`catalog_decides_family`).** Two graphs that differ only in what their nodes are stored
with have the same reports, the same findings of the heuristics and the same generated artifacts.
They have the same checks too, but for the estimate of the cost. The estimate is the same if the
nodes of types that the catalog lacks are.

The catalog comes first, so a stored category counts only for a type that it lacks. Each type of a
role is in the catalog (`Role.isSome_find?_of_holds`), so the graphs match in roles, and only the
estimate looks at a node without a role. Generation is another matter: no part of it reads what a
node is stored with, so it is the same after all of that is erased (`generate_unstored`).
-/

namespace CloudGraph

/-! ## Nodes -/

/-- The nodes differ at most in the category and the provider that they are stored with. -/
structure Node.SameButStored (n m : Node) : Prop where
  id : m.id = n.id
  componentType : m.componentType = n.componentType
  configuration : m.configuration = n.configuration
  label : m.label = n.label

namespace Node.SameButStored

variable {n m : Node}

/-- The category of the catalog comes before the stored one. -/
theorem view_eq (h : n.SameButStored m)
    (hknown : (Catalog.find? n.componentType).isSome = true) : m.view = n.view := by
  obtain ⟨entry, hentry⟩ := Option.isSome_iff_exists.1 hknown
  unfold Node.view Node.knownCategory
  rw [h.componentType, h.configuration, hentry]

theorem alike (h : n.SameButStored m) (hknown : (Catalog.find? n.componentType).isSome = true) :
    n.Alike m where
  id := h.id
  componentType := h.componentType
  label := h.label
  replicas := by rw [h.view_eq hknown]
  region? := by rw [h.view_eq hknown]
  instanceSize? := by rw [h.view_eq hknown]

end Node.SameButStored

/-! ## Reports and checks -/

/-- The graphs differ at most in what their nodes are stored with. -/
structure Graph.SameButStored (g g' : Graph) : Prop where
  nodes : List.Forall₂ Node.SameButStored g.nodes g'.nodes
  edges : g'.edges = g.edges

namespace Graph.SameButStored

variable {g g' : Graph}

theorem inRoles (h : g.SameButStored g') : g.MatchedInRoles Node.SameButStored g' where
  nodes := h.nodes
  edges := h.edges
  id hnm := hnm.id
  componentType hnm := hnm.componentType
  label hnm := hnm.label
  alike hnm _ hrole := hnm.alike (Role.isSome_find?_of_holds hrole)

theorem runRules_eq (h : g.SameButStored g') (rules : List Rule) :
    runRules rules g' = runRules rules g := by
  refine List.flatMap_congr fun r _ => h.inRoles.evaluate_eq (h.inRoles.offenders r.pattern ?_)
  rintro roles flag - - n m hnm hany
  obtain ⟨role, -, hrole⟩ := List.any_eq_true.1 hany
  rw [hnm.view_eq (Role.isSome_find?_of_holds hrole)]

/-- The checks are the same, apart from what becomes of the estimate. -/
theorem forall₂_runChecks (h : g.SameButStored g') {S : Check → Check → Prop} {limits : CostLimits}
    (hrefl : ∀ c, S c c)
    (hestimate : S (Cost.estimateCheck g limits) (Cost.estimateCheck g' limits)) :
    List.Forall₂ S (runChecks g limits) (runChecks g' limits) := by
  refine h.inRoles.forall₂_runChecks hrefl hestimate ?_ ?_ ?_ ?_
  all_goals
    intro n m hnm hrole
    dsimp only [Security.storageCheck, Security.databaseCheck, Security.loadBalancerCheck,
      Redundancy.standbyCheck]
    rw [hnm.view_eq (Role.isSome_find?_of_holds hrole), hnm.id, h.inRoles.displayName_eq hnm]
    exact hrefl _

end Graph.SameButStored

/-! ## Everything -/

theorem Graph.SameButStored.unstored_eq {g g' : Graph} (h : g.SameButStored g') :
    g'.unstored = g.unstored := by
  have hnodes : g'.nodes.map Node.unstored = g.nodes.map Node.unstored :=
    map_eq_of_forall₂ h.nodes fun hnm => by
      unfold Node.unstored
      rw [hnm.id, hnm.componentType, hnm.configuration, hnm.label]
  unfold Graph.unstored
  rw [hnodes, h.edges]

/-- The checks have the same id, and unless this is the id of the estimate they are the same. -/
structure Check.SameButEstimate (c c' : Check) : Prop where
  id : c'.id = c.id
  eq : c.id ≠ "cost-monthly-estimate" → c' = c

/-- **The catalog decides the family.** Take two graphs that differ at most in the category and
the provider that their nodes are stored with. The reports of all frameworks are the same, the
findings of the heuristics, and for each target what is generated or why it fails. The checks of a
run come in the same order with the same ids, and all but the estimate of the cost are the same;
the estimate is the same too if the nodes of types that the catalog lacks are the same. -/
theorem catalog_decides_family {g g' : Graph} (h : g.SameButStored g') :
    (∀ framework time, evaluateFramework g' framework time = evaluateFramework g framework time) ∧
      evaluateHeuristics g' = evaluateHeuristics g ∧
      (∀ target, generate target g' = generate target g) ∧
      (∀ limits, List.Forall₂ Check.SameButEstimate (runChecks g limits) (runChecks g' limits)) ∧
      (List.Forall₂ (fun n m => Catalog.find? n.componentType = none → m = n) g.nodes g'.nodes →
        ∀ limits, runChecks g' limits = runChecks g limits) := by
  refine ⟨?reports, h.runRules_eq _, ?artifacts, ?checks, ?estimate⟩
  case reports =>
    intro framework time
    unfold evaluateFramework
    rw [h.runRules_eq]
  case artifacts =>
    intro target
    rw [← generate_unstored, h.unstored_eq, generate_unstored]
  case checks =>
    intro limits
    refine h.forall₂_runChecks (fun c => ⟨rfl, fun _ => rfl⟩) ⟨rfl, fun hother => ?_⟩
    exact absurd rfl hother
  case estimate =>
    intro hunknown limits
    have halike : List.Forall₂ Node.Alike g.nodes g'.nodes := by
      refine List.Forall₂.mp (fun n m hstored hsame => ?_) h.nodes hunknown
      cases hentry : Catalog.find? n.componentType with
      | none => exact hsame hentry ▸ .refl n
      | some entry => exact hstored.alike (hentry ▸ rfl)
    have hestimate := Cost.estimateCheck_eq halike Cost.nodeCost_eq limits
    have hpairs : List.Forall₂ Eq (runChecks g limits) (runChecks g' limits) :=
      h.forall₂_runChecks (fun _ => rfl) hestimate.symm
    rw [List.forall₂_eq_eq_eq] at hpairs
    exact hpairs.symm

/-- A database stored as part of a network is a database all the same. A type that the catalog lacks
is what it is stored as: a store has one copy, whatever its configuration says. -/
theorem catalog_decides_family_misfiled :
    let db : Node := { id := "db", componentType := "aws-rds", category := .database }
    let own : Node := {
      id := "own", componentType := "no-such-type", category := .compute
      configuration := .ofList [("replicas", .ofInt 3)] }
    let g : Graph := { nodes := [db, own], edges := [⟨"e", "own", "db"⟩] }
    let misfiled : Graph := { g with
      nodes := [{ db with category := .network, provider := .azure }, own] }
    let stored : Graph := { g with nodes := [db, { own with category := .storage }] }
    g.SameButStored misfiled ∧
      List.Forall₂ (fun n m => Catalog.find? n.componentType = none → m = n) g.nodes
        misfiled.nodes ∧
      runChecks misfiled {} = runChecks g {} ∧
      g.SameButStored stored ∧
      own.view.replicas = 3 ∧ ({ own with category := .storage } : Node).view.replicas = 1 ∧
      (evaluateHeuristics g).map (·.ruleId) =
        ["sec-unencrypted-storage", "rel-no-backup", "rel-database-no-ha", "perf-no-cache"] ∧
      evaluateHeuristics stored = evaluateHeuristics g ∧
      List.Forall₂ Check.SameButEstimate (runChecks g {}) (runChecks stored {}) := by
  intro db own g misfiled stored
  have hmisfiled : g.SameButStored misfiled :=
    ⟨.cons ⟨rfl, rfl, rfl, rfl⟩ (.cons ⟨rfl, rfl, rfl, rfl⟩ .nil), rfl⟩
  have hstored : g.SameButStored stored :=
    ⟨.cons ⟨rfl, rfl, rfl, rfl⟩ (.cons ⟨rfl, rfl, rfl, rfl⟩ .nil), rfl⟩
  have hunknown : List.Forall₂ (fun n m : Node => Catalog.find? n.componentType = none → m = n)
      g.nodes misfiled.nodes :=
    .cons (fun hnone => absurd hnone (by decide +kernel)) (.cons (fun _ => rfl) .nil)
  obtain ⟨-, -, -, -, hestimate⟩ := catalog_decides_family hmisfiled
  obtain ⟨-, hheuristics, -, hchecks, -⟩ := catalog_decides_family hstored
  exact ⟨hmisfiled, hunknown, hestimate hunknown {}, hstored, by decide +kernel, by decide +kernel,
    by decide +kernel, hheuristics, hchecks {}⟩

end CloudGraph

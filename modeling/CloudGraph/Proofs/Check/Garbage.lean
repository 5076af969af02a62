import CloudGraph.Proofs.Check.Matched
import CloudGraph.Proofs.SortedMap
import CloudGraph.Rule.Report

/-!
# Garbage reads as absent

A configuration is open: anything may stand under any key. A value of the wrong type, a number of
copies that is not positive and a blank text say nothing (`isGarbage`), and the analyses read them
as if they were not there. So no report, no finding and no check changes when all garbage is
deleted (`garbage_reads_as_absent`), also where garbage under one key hides a value under another
that means the same.

Each key belongs to one kind of settings, so what is garbage under it depends on one reading only
(`read_withoutGarbage`).
-/

namespace CloudGraph

/-! ## Garbage -/

namespace Configuration

/-- Whether a value says nothing under its key: it is no boolean though the key is one of a setting
of yes or no, it is no positive integer of 64 bits though the key is that of the copies, or it is
blank or no text though the key is one of a region or of a size. -/
def isGarbage (key : String) (value : Json) : Bool :=
  (Flag.all.any (·.keys.contains key) && value.asBool?.isNone)
    || (key == replicasKey && !value.asInt64?.any (0 < ·))
    || ((regionKeys ++ sizeKeys).contains key && !value.asText?.any (!Text.isBlankText ·))

def withoutGarbage (bag : Configuration) : Configuration :=
  bag.filter fun key value => !isGarbage key value

theorem isGarbage_flag {flag : Flag} {key : String} (h : key ∈ flag.keys) (value : Json) :
    isGarbage key value = value.asBool?.isNone := by
  have hkeys : ∀ key ∈ flag.keys, Flag.all.any (·.keys.contains key) = true ∧
      (key == replicasKey) = false ∧ (regionKeys ++ sizeKeys).contains key = false := by
    cases flag <;> decide
  obtain ⟨hflag, hcopies, htext⟩ := hkeys key h
  unfold isGarbage
  rw [hflag, hcopies, htext, Bool.true_and, Bool.false_and, Bool.false_and, Bool.or_false,
    Bool.or_false]

theorem isGarbage_replicas (value : Json) :
    isGarbage replicasKey value = !value.asInt64?.any (0 < ·) := by
  have hflag : Flag.all.any (·.keys.contains replicasKey) = false := by decide
  have htext : (regionKeys ++ sizeKeys).contains replicasKey = false := by decide
  unfold isGarbage
  rw [hflag, htext, beq_self_eq_true, Bool.true_and, Bool.false_and, Bool.false_and,
    Bool.false_or, Bool.or_false]

theorem isGarbage_text {key : String} (h : key ∈ regionKeys ++ sizeKeys) (value : Json) :
    isGarbage key value = !value.asText?.any (!Text.isBlankText ·) := by
  have hkeys : ∀ key ∈ regionKeys ++ sizeKeys, Flag.all.any (·.keys.contains key) = false ∧
      (key == replicasKey) = false := by decide
  obtain ⟨hflag, hcopies⟩ := hkeys key h
  unfold isGarbage
  rw [hflag, hcopies, List.contains_iff_mem.2 h, Bool.true_and, Bool.false_and, Bool.false_and,
    Bool.false_or, Bool.false_or]

/-! ## Readings -/

/-- A reading that garbage has no part in is the same without it. -/
theorem read_withoutGarbage {α : Type} {read : Json → Option α} {key : String}
    (h : ∀ value, isGarbage key value = true → read value = none) (bag : Configuration) :
    (bag.withoutGarbage.get? key).bind read = (bag.get? key).bind read := by
  unfold withoutGarbage
  rw [SortedMap.get?_filter]
  cases bag.get? key with
  | none => rfl
  | some value =>
    by_cases hgarbage : isGarbage key value = true
    · simp [Option.filter, hgarbage, h value hgarbage]
    · simp [Option.filter, hgarbage]

theorem flag?_withoutGarbage (bag : Configuration) {flag : Flag} {key : String}
    (h : key ∈ flag.keys) : bag.withoutGarbage.flag? key = bag.flag? key := by
  refine read_withoutGarbage (fun value hgarbage => ?_) bag
  rw [isGarbage_flag h] at hgarbage
  exact Option.isNone_iff_eq_none.1 hgarbage

/-- A reading that drops some values is the same without the garbage if just these are garbage. -/
theorem filter_withoutGarbage {α : Type} {read : Json → Option α} {keep : α → Bool} {key : String}
    (h : ∀ value, isGarbage key value = !(read value).any keep) (bag : Configuration) :
    ((bag.withoutGarbage.get? key).bind read).filter keep =
      ((bag.get? key).bind read).filter keep := by
  have hfilter : ∀ value : Option Json,
      (value.bind read).filter keep = value.bind fun v => (read v).filter keep := fun value => by
    cases value <;> rfl
  rw [hfilter, hfilter]
  refine read_withoutGarbage (fun value hgarbage => ?_) bag
  rw [h value] at hgarbage
  cases hread : read value with
  | none => rfl
  | some a => simpa [hread, Option.filter] using hgarbage

end Configuration

/-! ## Nodes and graphs -/

namespace Node

def withoutGarbage (n : Node) : Node :=
  { n with configuration := n.configuration.withoutGarbage }

theorem alike_withoutGarbage (n : Node) : n.Alike n.withoutGarbage :=
  alike_of_configuration
    (Configuration.filter_withoutGarbage Configuration.isGarbage_replicas n.configuration)
    fun _ hkey =>
      Configuration.filter_withoutGarbage (Configuration.isGarbage_text hkey) n.configuration

theorem flag?_withoutGarbage (n : Node) (flag : Flag) :
    n.withoutGarbage.view.flag? flag = n.view.flag? flag :=
  flag?_of_configuration fun _ hkey => Configuration.flag?_withoutGarbage n.configuration hkey

end Node

namespace Graph

/-- The graph with the garbage of every node deleted. -/
def withoutGarbage (g : Graph) : Graph :=
  { g with nodes := g.nodes.map Node.withoutGarbage }

theorem matched_withoutGarbage (g : Graph) :
    g.Matched (fun n m => m = n.withoutGarbage) g.withoutGarbage where
  nodes := List.forall₂_map_right_iff.2 (List.forall₂_same.2 fun _ _ => rfl)
  edges := rfl
  alike := fun hnm => hnm ▸ Node.alike_withoutGarbage _

end Graph

theorem runRules_withoutGarbage (rules : List Rule) (g : Graph) :
    runRules rules g.withoutGarbage = runRules rules g := by
  refine List.flatMap_congr fun r _ => ?_
  have hmatched := g.matched_withoutGarbage
  refine hmatched.inRoles.evaluate_eq (hmatched.offenders r.pattern ?_)
  rintro roles flag unsafeWhen - n m rfl
  exact n.flag?_withoutGarbage flag

theorem runChecks_withoutGarbage (g : Graph) (limits : CostLimits) :
    runChecks g.withoutGarbage limits = runChecks g limits := by
  have hpairs : List.Forall₂ Eq (runChecks g limits) (runChecks g.withoutGarbage limits) := by
    refine g.matched_withoutGarbage.forall₂_runChecks (fun _ => rfl) ?_ ?_ ?_ ?_ limits
    all_goals
      rintro n _ rfl
      dsimp only [Security.storageCheck, Security.databaseCheck, Security.loadBalancerCheck,
        Redundancy.standbyCheck]
      rw [n.flag?_withoutGarbage, n.alike_withoutGarbage.id,
        n.alike_withoutGarbage.displayName]
  rw [List.forall₂_eq_eq_eq] at hpairs
  exact hpairs.symm

/-- **Garbage reads as absent.** Delete from every node of a graph what stands under the key of a
setting of yes or no and is no boolean, what stands under the key of the copies and is no positive
integer of 64 bits, and what stands under the key of a region or a size and is blank or no text.
The reports of all frameworks, the findings of the heuristics and the checks are the same. -/
theorem garbage_reads_as_absent (g : Graph) :
    (∀ framework time,
        evaluateFramework g.withoutGarbage framework time = evaluateFramework g framework time) ∧
      evaluateHeuristics g.withoutGarbage = evaluateHeuristics g ∧
      ∀ limits, runChecks g.withoutGarbage limits = runChecks g limits := by
  refine ⟨fun framework time => ?_, runRules_withoutGarbage _ g, runChecks_withoutGarbage g⟩
  unfold evaluateFramework
  rw [runRules_withoutGarbage]

example :
    (Configuration.withoutGarbage (.ofList [("encryption", .str "yes"), ("encrypted", .bool true),
      ("replicas", .ofInt 0), ("sku", .str " "), ("note", .null)])).keys =
      ["encrypted", "note"] := by
  decide +kernel

end CloudGraph

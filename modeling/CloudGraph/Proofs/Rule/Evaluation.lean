import CloudGraph.Rule.Report
import Mathlib.Data.List.Basic
import Mathlib.Data.List.TakeWhile

/-!
# What a run of rules finds

A run strings the findings of its rules together. Each finding carries the id of its rule, and no
two rules of a run share an id, so the findings of a rule can be cut out of the whole again
(`filter_ruleId_runRules`). Whether a rule has one finding for each offender or one for all of
them, its findings name the offenders in the order of the pattern (`flatMap_affected_evaluate`).

An id made for a node has a colon in front of the node's id. Whatever that is, the part before the
colon can be told from it, if it has no colon itself (`beforeColon_append`).
-/

namespace CloudGraph

variable {g : Graph}

/-- The rules of all frameworks, and the heuristics. -/
def Rule.builtIn : List Rule :=
  Framework.all.flatMap Framework.rules ++ heuristics

theorem Rule.mem_builtIn_of_framework {f : Framework} {r : Rule} (h : r ∈ f.rules) :
    r ∈ builtIn := by
  apply List.mem_append_left
  exact List.mem_flatMap.2 ⟨f, by cases f <;> decide, h⟩

theorem Rule.mem_builtIn_of_heuristics {r : Rule} (h : r ∈ heuristics) : r ∈ builtIn :=
  List.mem_append_right _ h

/-- A finding is about one offender, or about all where there are some. -/
theorem Rule.eq_of_mem_evaluate {r : Rule} {f : Finding} (h : f ∈ r.evaluate g) :
    (∃ n, f = r.findingFor n) ∨ ∃ n nodes, f = r.findingForAll (n :: nodes) := by
  dsimp only [evaluate] at h
  split_ifs at h with hnone
  · exact absurd h List.not_mem_nil
  · obtain ⟨n, -, rfl⟩ := List.mem_map.1 h
    exact .inl ⟨n, rfl⟩
  · cases hoffenders : r.pattern.offenders g with
    | nil => exact absurd (List.isEmpty_iff.2 hoffenders) hnone
    | cons n nodes =>
      rw [hoffenders, List.mem_singleton] at h
      exact .inr ⟨n, nodes, h⟩

theorem Rule.ruleId_of_mem_evaluate {r : Rule} {f : Finding} (h : f ∈ r.evaluate g) :
    f.ruleId = r.id := by
  rcases eq_of_mem_evaluate h with ⟨n, rfl⟩ | ⟨n, nodes, rfl⟩
  · rfl
  · rfl

theorem Framework.nodup_ruleIds (f : Framework) : f.ruleIds.Nodup := by
  cases f <;> decide +kernel

/-- The rules of a framework have one finding for all offenders. -/
theorem Framework.scope_of_mem_rules {f : Framework} : ∀ r ∈ f.rules, r.scope = .aggregate := by
  cases f <;> decide +kernel

theorem nodup_heuristicRuleIds : heuristicRuleIds.Nodup := by
  decide +kernel

/-! ## Ids in two parts -/

/-- The part of an id before its first colon. -/
def beforeColon (id : String) : String :=
  String.ofList (id.toList.takeWhile (· ≠ ':'))

section Colon

variable {start : String} (h : ':' ∉ start.toList)
include h

theorem ne_colon_of_mem {c : Char} (hc : c ∈ start.toList) : decide (c ≠ ':') = true :=
  decide_eq_true fun heq => h (heq ▸ hc)

theorem beforeColon_eq_self : beforeColon start = start := by
  unfold beforeColon
  rw [List.takeWhile_eq_self_iff.2 fun _ hc => ne_colon_of_mem h hc, String.ofList_toList]

theorem beforeColon_append (rest : String) : beforeColon (start ++ ":" ++ rest) = start := by
  unfold beforeColon
  rw [String.append_assoc, String.toList_append,
    List.takeWhile_append_of_pos fun _ hc => ne_colon_of_mem h hc]
  simp [String.toList_append]

end Colon

/-! ## Parts of a run -/

/-- If each part holds only items of its own name, the items of a name are those of its part. -/
theorem filter_flatMap_of_name {α β γ : Type} [BEq γ] [LawfulBEq γ] {name : α → γ}
    {items : α → List β} {nameOf : β → γ} {parts : List α}
    (h : ∀ a ∈ parts, ∀ b ∈ items a, nameOf b = name a) (hnodup : (parts.map name).Nodup)
    {a : α} (ha : a ∈ parts) :
    (parts.flatMap items).filter (nameOf · == name a) = items a := by
  have hother : ∀ others : List α, (∀ b ∈ others, ∀ c ∈ items b, nameOf c = name b) →
      name a ∉ others.map name → (others.flatMap items).filter (nameOf · == name a) = [] := by
    intro others hnames hnew
    rw [List.filter_eq_nil_iff]
    intro c hc heq
    obtain ⟨b, hb, hc⟩ := List.mem_flatMap.1 hc
    rw [beq_iff_eq, hnames b hb c hc] at heq
    exact hnew (heq ▸ List.mem_map_of_mem hb)
  induction parts with
  | nil => exact absurd ha List.not_mem_nil
  | cons part rest ih =>
    obtain ⟨hpart, hrest⟩ := List.forall_mem_cons.1 h
    obtain ⟨hnew, hnodup⟩ := List.nodup_cons.1 hnodup
    rw [List.flatMap_cons, List.filter_append]
    rcases List.mem_cons.1 ha with rfl | ha
    · have hall : (items a).filter (nameOf · == name a) = items a :=
        List.filter_eq_self.2 fun b hb => beq_iff_eq.2 (hpart b hb)
      rw [hall, hother rest hrest hnew, List.append_nil]
    · have hne : name part ≠ name a := fun heq => hnew (heq ▸ List.mem_map_of_mem ha)
      have hnone : (items part).filter (nameOf · == name a) = [] :=
        List.filter_eq_nil_iff.2 fun b hb heq => hne (hpart b hb ▸ beq_iff_eq.1 heq)
      rw [hnone, List.nil_append, ih hrest hnodup ha]

/-- The findings of a run that carry the id of one of its rules are those of this rule. -/
theorem filter_ruleId_runRules {rules : List Rule} (hnodup : (rules.map (·.id)).Nodup) {r : Rule}
    (hr : r ∈ rules) : (runRules rules g).filter (·.ruleId == r.id) = r.evaluate g :=
  filter_flatMap_of_name (fun _ _ _ => Rule.ruleId_of_mem_evaluate) hnodup hr

theorem Rule.flatMap_affected_evaluate (r : Rule) (g : Graph) :
    (r.evaluate g).flatMap (·.affected) = (r.pattern.offenders g).map (·.id) := by
  dsimp only [evaluate]
  generalize r.pattern.offenders g = offenders
  split_ifs with hnone
  · rw [List.isEmpty_iff.1 hnone]
    rfl
  · rw [List.flatMap_map, List.map_eq_flatMap]
    rfl
  · simp [findingForAll, finding]

end CloudGraph

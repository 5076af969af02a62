import CloudGraph.Proofs.Catalog.Role
import CloudGraph.Proofs.Check.Matched
import CloudGraph.Proofs.Rule.Score
import Mathlib.Algebra.Order.BigOperators.Group.List
import Mathlib.Algebra.Order.Group.Nat

/-!
# A remediation helps and never hurts

A rule about a setting tells its offenders to give it the other value. This file follows that
advice: one offender of one built-in rule gets the safe value under the canonical key of the
setting (`remediation_helps`).

**It helps.** The node offends no more, whatever stands under the other keys of the setting: the
canonical key is read first. That it is read at all is a fact about four tables
(`exposes_of_mem_builtIn`): the roles of the rule, the types of a role, the family of a type, and
the settings of a family.

**It never hurts.** All rules agree on the safe value of a setting (`safe_of_mem_builtIn`), and no
key serves two settings. So node by node a setting reads as before or safe (`Node.Safer`), and
every rule keeps at most the offenders it had, every score at least its value, and every check a
status that is no worse.
-/

namespace CloudGraph

/-- The value of a setting that is not unsafe. -/
def UnsafeWhen.safe : UnsafeWhen → Bool
  | .isTrue => false
  | .isNotTrue => true

/-- The safe value of a setting: what is open to the public is not, all else is there. -/
def Flag.safe : Flag → Bool
  | .publicAccess => false
  | .encryption | .tls | .highAvailability | .auditLogging | .versioning => true

/-- The roles and the setting that a pattern asks for, and when its value is unsafe. -/
def Pattern.setting? : Pattern → Option (List Role × Flag × UnsafeWhen)
  | .configFlag roles flag unsafeWhen => some (roles, flag, unsafeWhen)
  | _ => none

namespace Rule

variable {r : Rule} {roles : List Role} {flag : Flag} {unsafeWhen : UnsafeWhen}

/-- What the built-in rules ask of settings. -/
theorem setting_of_mem_builtIn :
    ∀ r ∈ builtIn, ∀ s ∈ r.pattern.setting?, s.2.2.safe = s.2.1.safe ∧
      ∀ role ∈ s.1, (Family.ofCategory role.category).flags.contains s.2.1 = true := by
  decide +kernel

/-- All built-in rules agree on the safe value of a setting. -/
theorem safe_of_mem_builtIn (hr : r ∈ builtIn)
    (hp : r.pattern = .configFlag roles flag unsafeWhen) : unsafeWhen.safe = flag.safe :=
  (setting_of_mem_builtIn r hr (roles, flag, unsafeWhen) (by rw [hp]; rfl)).1

/-- Every node that a built-in rule asks for a setting has this setting. -/
theorem exposes_of_mem_builtIn (hr : r ∈ builtIn)
    (hp : r.pattern = .configFlag roles flag unsafeWhen) {n : Node}
    (hn : n.hasAnyRole roles = true) : n.view.family.flags.contains flag = true := by
  obtain ⟨role, hrole, hheld⟩ := List.any_eq_true.1 hn
  show (Family.ofCategory n.knownCategory).flags.contains flag = true
  rw [Node.knownCategory_of_hasRole hheld]
  exact (setting_of_mem_builtIn r hr (roles, flag, unsafeWhen) (by rw [hp]; rfl)).2 role hrole

end Rule

/-! ## The node -/

namespace Node

/-- A setting is none of the copies, the region or the size. -/
theorem alike_withSetting (n : Node) (flag : Flag) (value : Bool) :
    n.Alike (n.withSetting flag.name (.bool value)) := by
  have hcopies : replicasKey ≠ flag.name := by cases flag <;> decide
  have htext : ∀ key ∈ regionKeys ++ sizeKeys, key ≠ flag.name := by cases flag <;> decide
  refine alike_of_configuration ?_ fun key hkey => ?_
  · unfold Configuration.integer?
    rw [SortedMap.get?_insert_ne _ hcopies]
  · unfold Configuration.text?
    rw [SortedMap.get?_insert_ne _ (htext key hkey)]

theorem flag?_withSetting_of_ne (n : Node) {flag other : Flag} (h : other ≠ flag) (value : Bool) :
    (n.withSetting flag.name (.bool value)).view.flag? other = n.view.flag? other := by
  have hkeys : ∀ key ∈ other.keys, key ≠ flag.name := by
    revert h
    cases flag <;> cases other <;> decide
  refine flag?_of_configuration fun key hkey => ?_
  unfold Configuration.flag?
  rw [SortedMap.get?_insert_ne _ (hkeys key hkey)]

/-- The canonical key is read first. -/
theorem flag?_withSetting_self (n : Node) (flag : Flag) (value : Bool) :
    (n.withSetting flag.name (.bool value)).view.flag? flag =
      if n.view.family.flags.contains flag then some value else none := by
  have hfirst : Configuration.firstFlag? (n.configuration.insert flag.name (.bool value))
      flag.keys = some value := by
    unfold Configuration.firstFlag? Flag.keys
    rw [List.findSome?_cons]
    unfold Configuration.flag?
    rw [SortedMap.get?_insert_self]
    rfl
  exact congrArg (fun found => if n.view.family.flags.contains flag then found else none) hfirst

/-- Every setting of the second node reads as in the first, or it is safe. -/
def Safer (n m : Node) : Prop :=
  ∀ flag : Flag, m.view.flag? flag = n.view.flag? flag ∨ m.view.flag? flag = some flag.safe

theorem safer_refl (n : Node) : n.Safer n := fun _ => .inl rfl

theorem safer_withSetting (n : Node) (flag : Flag) :
    n.Safer (n.withSetting flag.name (.bool flag.safe)) := by
  intro other
  by_cases h : other = flag
  · subst h
    rw [flag?_withSetting_self]
    split_ifs with hexposed
    · exact .inr rfl
    · left
      unfold View.flag?
      rw [if_neg hexposed]
  · exact .inl (n.flag?_withSetting_of_ne h _)

end Node

theorem UnsafeWhen.matches_safe (u : UnsafeWhen) : u.matches (some u.safe) = false := by
  cases u <;> rfl

/-! ## Rules -/

section Rules

variable {R : Node → Node → Prop} {g g' : Graph}

/-- Safer nodes give a rule no offenders that it did not have. -/
theorem sublist_offenders (h : g.Matched R g') (hsafer : ∀ {n m}, R n m → n.Safer m) {r : Rule}
    (hr : r ∈ Rule.builtIn) :
    List.SublistForall₂ (flip R) (r.pattern.offenders g') (r.pattern.offenders g) := by
  by_cases hp : ∃ roles flag unsafeWhen, r.pattern = .configFlag roles flag unsafeWhen
  · obtain ⟨roles, flag, unsafeWhen, hp⟩ := hp
    have hsafe := Rule.safe_of_mem_builtIn hr hp
    rw [hp]
    refine sublist_filter_of_forall₂ h.nodes fun {n m} hnm hm => ?_
    rw [(h.alike hnm).hasAnyRole, Bool.and_eq_true] at hm
    rw [Bool.and_eq_true]
    refine ⟨hm.1, ?_⟩
    rcases hsafer hnm flag with hsame | hsetting
    · rw [← hsame]
      exact hm.2
    · rw [hsetting, ← hsafe, unsafeWhen.matches_safe] at hm
      exact absurd hm.2 Bool.false_ne_true
  · have hpairs := h.offenders r.pattern fun roles flag unsafeWhen heq =>
      absurd ⟨roles, flag, unsafeWhen, heq⟩ hp
    exact List.sublistForall₂_iff.2 ⟨_, hpairs.flip, .refl _⟩

theorem Rule.length_evaluate_le {r : Rule}
    (h : (r.pattern.offenders g').length ≤ (r.pattern.offenders g).length) :
    (r.evaluate g').length ≤ (r.evaluate g).length := by
  dsimp only [evaluate]
  rcases hnew : r.pattern.offenders g' with _ | ⟨m, ms⟩
  · exact Nat.zero_le _
  · rcases hold : r.pattern.offenders g with _ | ⟨n, ns⟩
    · rw [hnew, hold] at h
      exact absurd h (Nat.not_succ_le_zero _)
    · rw [hnew, hold] at h
      simp only [List.isEmpty_cons, Bool.false_eq_true, if_false]
      split_ifs
      · rwa [List.length_map, List.length_map]
      · exact Nat.le_refl 1

theorem score_le (h : g.Matched R g') (hsafer : ∀ {n m}, R n m → n.Safer m)
    (framework : Framework) (time : Timestamp) :
    (evaluateFramework g framework time).score ≤ (evaluateFramework g' framework time).score := by
  have hfindings : (runRules framework.rules g').length ≤ (runRules framework.rules g).length := by
    unfold runRules
    rw [List.length_flatMap, List.length_flatMap]
    refine List.sum_le_sum fun r hr => Rule.length_evaluate_le ?_
    have hbuiltIn := Rule.mem_builtIn_of_framework hr
    obtain ⟨kept, hpairs, hkept⟩ :=
      List.sublistForall₂_iff.1 (sublist_offenders h hsafer hbuiltIn)
    exact hpairs.length_eq.trans_le hkept.length_le
  exact ComplianceReport.percent_le framework hfindings (framework.length_runRules_le g)

end Rules

/-! ## Checks -/

/-- Whether the first status is the second or a better one: a pass is better than a warning, and a
warning better than a failure. -/
def Status.noWorse : Status → Status → Bool
  | .pass, .warning | .pass, .fail | .warning, .fail => true
  | status, other => status == other

theorem Status.noWorse_self (status : Status) : status.noWorse status = true := by
  cases status <;> rfl

/-- The second check is the same question as the first, and its verdict is no worse. -/
structure Check.Improves (c c' : Check) : Prop where
  id : c'.id = c.id
  status : c'.status.noWorse c.status = true

theorem Check.improves_refl (c : Check) : c.Improves c := ⟨rfl, c.status.noWorse_self⟩

/-- A check that asks for a setting, and has its best verdict where that is safe. -/
theorem improves_of_verdict {check : Node → Check} {kind : String} (flag : Flag)
    (verdict : Option Bool → Status) (hid : ∀ n, (check n).id = kind ++ n.id)
    (hstatus : ∀ n, (check n).status = verdict (n.view.flag? flag))
    (hbest : ∀ value, (verdict (some flag.safe)).noWorse (verdict value) = true) {n m : Node}
    (halike : n.Alike m) (hsafer : n.Safer m) : (check n).Improves (check m) where
  id := by rw [hid, hid, halike.id]
  status := by
    rw [hstatus, hstatus]
    rcases hsafer flag with hsame | hsafe
    · rw [hsame, Status.noWorse_self]
    · rw [hsafe, hbest]

theorem runChecks_improves {R : Node → Node → Prop} {g g' : Graph} (h : g.Matched R g')
    (hsafer : ∀ {n m}, R n m → n.Safer m) (limits : CostLimits) :
    List.Forall₂ Check.Improves (runChecks g limits) (runChecks g' limits) := by
  refine h.forall₂_runChecks Check.improves_refl ?storage ?database ?loadBalancer ?standby limits
  case storage =>
    exact fun hnm => improves_of_verdict .encryption
      (fun value => if value == some true then .pass else .fail) (fun _ => rfl) (fun _ => rfl)
      (by rintro (_ | _ | _) <;> rfl) (h.alike hnm) (hsafer hnm)
  case database =>
    exact fun hnm => improves_of_verdict .publicAccess
      (fun value => if value == some true then .fail else .pass) (fun _ => rfl) (fun _ => rfl)
      (by rintro (_ | _ | _) <;> rfl) (h.alike hnm) (hsafer hnm)
  case loadBalancer =>
    exact fun hnm => improves_of_verdict .tls
      (fun value => if value == some true then .pass else .fail) (fun _ => rfl) (fun _ => rfl)
      (by rintro (_ | _ | _) <;> rfl) (h.alike hnm) (hsafer hnm)
  case standby =>
    exact fun hnm => improves_of_verdict .highAvailability
      (fun value => if value == some true then .pass else .warning) (fun _ => rfl) (fun _ => rfl)
      (by rintro (_ | _ | _) <;> rfl) (h.alike hnm) (hsafer hnm)

/-! ## One node at a time -/

/-- The second node is the first, or it stands in place of it as `m` in place of `n`. -/
def Replaces (n m : Node) (x y : Node) : Prop := y = x ∨ x = n ∧ y = m

theorem forall₂_set {n m : Node} {nodes : List Node} {i : Nat} (h : nodes[i]? = some n) :
    List.Forall₂ (Replaces n m) nodes (nodes.set i m) := by
  have hsame : ∀ nodes : List Node, List.Forall₂ (Replaces n m) nodes nodes := fun nodes =>
    List.forall₂_same.2 fun _ _ => .inl rfl
  induction nodes generalizing i with
  | nil => exact .nil
  | cons x nodes ih =>
    cases i with
    | zero => exact .cons (.inr ⟨Option.some.inj h, rfl⟩) (hsame nodes)
    | succ i => exact .cons (.inl rfl) (ih h)

theorem Graph.matched_set {g : Graph} {n m : Node} {i : Nat} (halike : n.Alike m)
    (hi : g.nodes[i]? = some n) :
    g.Matched (Replaces n m) { g with nodes := g.nodes.set i m } where
  nodes := forall₂_set hi
  edges := rfl
  alike := by
    rintro x y (rfl | ⟨rfl, rfl⟩)
    · exact .refl y
    · exact halike

/-- **A remediation helps and never hurts.** Let a node offend a built-in rule about a setting, and
give it the safe value under the canonical key of the setting. Then the node offends that rule no
more; the offenders of each built-in rule are among those it had, with the new node in place of the
old one; no framework scores less; and each check of a run has a status that is no worse. -/
theorem remediation_helps (g : Graph) {r : Rule} (hr : r ∈ Rule.builtIn) {roles : List Role}
    {flag : Flag} {unsafeWhen : UnsafeWhen} (hp : r.pattern = .configFlag roles flag unsafeWhen)
    {i : Nat} {n : Node} (hi : g.nodes[i]? = some n) (hn : n ∈ r.pattern.offenders g) :
    let n' := n.withSetting flag.name (.bool unsafeWhen.safe)
    let g' := { g with nodes := g.nodes.set i n' }
    n' ∉ r.pattern.offenders g' ∧
      (∀ s ∈ Rule.builtIn, List.SublistForall₂ (fun y x => Replaces n n' x y)
        (s.pattern.offenders g') (s.pattern.offenders g)) ∧
      (∀ framework time,
        (evaluateFramework g framework time).score ≤ (evaluateFramework g' framework time).score) ∧
      ∀ limits, List.Forall₂ Check.Improves (runChecks g limits) (runChecks g' limits) := by
  intro n' g'
  have hsafe : unsafeWhen.safe = flag.safe := Rule.safe_of_mem_builtIn hr hp
  have hmatched : g.Matched (Replaces n n') g' :=
    Graph.matched_set (n.alike_withSetting flag unsafeWhen.safe) hi
  have hsafer : ∀ {x y}, Replaces n n' x y → x.Safer y := by
    rintro x y (rfl | ⟨rfl, rfl⟩)
    · exact y.safer_refl
    · show x.Safer (x.withSetting flag.name (.bool unsafeWhen.safe))
      rw [hsafe]
      exact x.safer_withSetting flag
  refine ⟨fun hoffends => ?_, fun s hs => sublist_offenders hmatched hsafer hs,
    score_le hmatched hsafer, runChecks_improves hmatched hsafer⟩
  rw [hp] at hn hoffends
  obtain ⟨hroles, -⟩ := Bool.and_eq_true_iff.1 (List.mem_filter.1 hn).2
  obtain ⟨-, hunsafe⟩ := Bool.and_eq_true_iff.1 (List.mem_filter.1 hoffends).2
  rw [n.flag?_withSetting_self, if_pos (Rule.exposes_of_mem_builtIn hr hp hroles),
    unsafeWhen.matches_safe] at hunsafe
  exact Bool.false_ne_true hunsafe

theorem remediation_helps_conflicting_keys :
    let r := Rule.cisRules[1]
    let n := ((Node.ofType "bucket" "aws-s3").withSetting "encryption" (.str "yes")).withSetting
      "encrypted" (.bool false)
    let g : Graph := { nodes := [Node.ofType "db" "aws-rds", n], edges := [⟨"e1", "db", "bucket"⟩] }
    let n' := n.withSetting "encryption" (.bool true)
    let g' := { g with nodes := g.nodes.set 1 n' }
    let time : Timestamp := { seconds := 0 }
    r ∈ Rule.builtIn ∧ r.pattern = .configFlag [.storage] .encryption .isNotTrue ∧
      g.nodes[1]? = some n ∧ n ∈ r.pattern.offenders g ∧ n' ∉ r.pattern.offenders g' ∧
      (evaluateFramework g .cis time).score ≤ (evaluateFramework g' .cis time).score ∧
      List.Forall₂ Check.Improves (runChecks g {}) (runChecks g' {}) := by
  intro r n g n' g' time
  have hr : r ∈ Rule.builtIn := by decide +kernel
  have hn : n ∈ r.pattern.offenders g :=
    List.mem_filter.2 ⟨List.mem_cons_of_mem _ List.mem_cons_self, by decide +kernel⟩
  obtain ⟨hgone, -, hscore, hchecks⟩ := remediation_helps g hr rfl (i := 1) rfl hn
  exact ⟨hr, rfl, rfl, hn, hgone, hscore .cis time, hchecks {}⟩

end CloudGraph

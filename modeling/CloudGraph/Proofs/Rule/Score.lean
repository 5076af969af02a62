import CloudGraph.Proofs.Rule.Evaluation
import Mathlib.Algebra.Order.Floor.Semifield
import Mathlib.Data.Rat.Floor

/-!
# The score of a report

A rule of a framework has one finding for all its offenders, so the findings of a report are the
rules that have an offender, each once (`map_ruleId_runRules`). There are at most as many rules as
checks, and the checks that are left have passed.

**Rounding** (`ComplianceReport.percent_eq`). The score goes through doubles: a quotient, a product
and a rounding to the nearest integer. The first two are inexact. For the totals of the frameworks
the error never reaches the next half, so the score is that of exact arithmetic, and it falls with
the number of failed checks (`ComplianceReport.percent_le`).
-/

namespace CloudGraph

variable {g : Graph}

/-! ## One finding or none -/

/-- The rules that have an offender. -/
def violated (rules : List Rule) (g : Graph) : List Rule :=
  rules.filter fun r => !(r.pattern.offenders g).isEmpty

theorem Rule.map_ruleId_evaluate {r : Rule} (h : r.scope = .aggregate) :
    (r.evaluate g).map (·.ruleId) = if (r.pattern.offenders g).isEmpty then [] else [r.id] := by
  have hscope : ¬ (r.scope = .perNode ∧ r.pattern.isNodeScoped) := fun hnode =>
    absurd (h.symm.trans hnode.1) (by decide)
  dsimp only [evaluate]
  rw [if_neg hscope, apply_ite (List.map _)]
  rfl

theorem map_ruleId_runRules {rules : List Rule} (h : ∀ r ∈ rules, r.scope = .aggregate) :
    (runRules rules g).map (·.ruleId) = (violated rules g).map (·.id) := by
  unfold runRules violated
  induction rules with
  | nil => rfl
  | cons r rest ih =>
    obtain ⟨hr, hrest⟩ := List.forall_mem_cons.1 h
    rw [List.flatMap_cons, List.map_append, Rule.map_ruleId_evaluate hr, ih hrest]
    cases hnone : (r.pattern.offenders g).isEmpty <;> simp [hnone]

theorem length_runRules {rules : List Rule} (h : ∀ r ∈ rules, r.scope = .aggregate) :
    (runRules rules g).length = (violated rules g).length := by
  simpa using congrArg List.length (map_ruleId_runRules h)

theorem Framework.length_runRules_le (f : Framework) (g : Graph) :
    (runRules f.rules g).length ≤ f.rules.length := by
  rw [length_runRules f.scope_of_mem_rules]
  exact List.length_filter_le _ _

theorem Framework.length_rules_le (f : Framework) : f.rules.length ≤ f.totalChecks := by
  cases f <;> decide

/-! ## Rounding -/

namespace ComplianceReport

/-- For as many failed checks as a framework has rules, the doubles give what exact arithmetic
gives. -/
theorem percent_eq (f : Framework) {failed : Nat} (h : failed ≤ f.rules.length) :
    percent (f.totalChecks - failed) f.totalChecks =
      (200 * (f.totalChecks - failed) + f.totalChecks) / (2 * f.totalChecks) := by
  have htable : ∀ f ∈ Framework.all, ∀ failed ∈ List.range (f.rules.length + 1),
      percent (f.totalChecks - failed) f.totalChecks =
        (200 * (f.totalChecks - failed) + f.totalChecks) / (2 * f.totalChecks) := by
    decide +kernel
  have hall : f ∈ Framework.all := by cases f <;> decide
  exact htable f hall failed (List.mem_range.2 (Nat.lt_succ_of_le h))

theorem percent_le (f : Framework) {failed failed' : Nat} (h : failed' ≤ failed)
    (h' : failed ≤ f.rules.length) :
    percent (f.totalChecks - failed) f.totalChecks ≤
      percent (f.totalChecks - failed') f.totalChecks := by
  rw [percent_eq f h', percent_eq f (h.trans h')]
  have hpassed := Nat.sub_le_sub_left h f.totalChecks
  exact Nat.div_le_div_right (Nat.add_le_add_right (Nat.mul_le_mul_left 200 hpassed) _)

theorem percent_le_hundred (f : Framework) {failed : Nat} (h : failed ≤ f.rules.length) :
    percent (f.totalChecks - failed) f.totalChecks ≤ 100 := by
  have hfull : percent (f.totalChecks - 0) f.totalChecks = 100 := by
    rw [percent_eq f (Nat.zero_le _)]
    cases f <;> rfl
  exact hfull ▸ percent_le f (Nat.zero_le failed) h

/-- Half a unit added and the fraction cut off: a half goes up. -/
theorem percent_eq_floor (f : Framework) {failed : Nat} (h : failed ≤ f.rules.length) :
    percent (f.totalChecks - failed) f.totalChecks =
      ⌊(100 * (f.totalChecks - failed : ℕ) : ℚ) / f.totalChecks + 1 / 2⌋₊ := by
  have hpos : (f.totalChecks : ℚ) ≠ 0 := by cases f <;> decide
  have hquotient : (100 * (f.totalChecks - failed : ℕ) : ℚ) / f.totalChecks + 1 / 2 =
      ((200 * (f.totalChecks - failed) + f.totalChecks : ℕ) : ℚ) / (2 * f.totalChecks : ℕ) := by
    generalize f.totalChecks - failed = passed
    push_cast
    field_simp
    ring
  rw [percent_eq f h, hquotient, Nat.floor_div_eq_div]

end ComplianceReport

/-- **Every check is accounted for.** The findings of a report are those of the rules that have an
offender, one each, in the order of the rules. All other checks have passed, so the findings and the
passed checks add up to the total. The score is the share of passed checks in percent, rounded to
the nearest integer and from a half upwards; it is at most 100. -/
theorem report_accounts_for_checks (g : Graph) (framework : Framework) (time : Timestamp) :
    let report := evaluateFramework g framework time
    report.findings.map (·.ruleId) = (violated framework.rules g).map (·.id) ∧
      (report.findings.map (·.ruleId)).Sublist framework.ruleIds ∧
      (report.findings.map (·.ruleId)).Nodup ∧
      report.totalChecks = framework.totalChecks ∧
      report.passedChecks + report.findings.length = report.totalChecks ∧
      report.score = ⌊(100 * report.passedChecks : ℚ) / report.totalChecks + 1 / 2⌋₊ ∧
      report.score ≤ 100 := by
  intro report
  have hids : report.findings.map (·.ruleId) = (violated framework.rules g).map (·.id) :=
    map_ruleId_runRules framework.scope_of_mem_rules
  have hsublist : (report.findings.map (·.ruleId)).Sublist framework.ruleIds := by
    rw [hids]
    exact List.filter_sublist.map _
  have hfailed := framework.length_runRules_le g
  exact ⟨hids, hsublist, framework.nodup_ruleIds.sublist hsublist, rfl,
    Nat.sub_add_cancel (hfailed.trans framework.length_rules_le),
    ComplianceReport.percent_eq_floor framework hfailed,
    ComplianceReport.percent_le_hundred framework hfailed⟩

end CloudGraph

import CloudGraph.Rule.Finding
import CloudGraph.Total
import Mathlib.Algebra.Order.Group.Int
import Mathlib.Data.List.Count
import Mathlib.Data.List.Nodup

/-!
# Summaries add up

**Theorem (`summary_append`).** The summary of two lists behind each other is made of the summaries
of the two: totals and counts are added, and so are the health scores, less 100 and not below 0.
The order of the findings does not count.

The summary is told in closed form (`ofFindings_eq`).

* *Counts.* Counting a key once more raises its count and no other (`countUp_occurring`). So the
  counts of a list are how often each key occurs in it, for the keys that do (`foldl_countUp`).
* *Penalty.* The word adds up the weights (`penalty_foldl`). Below `UInt32.size` it does not
  overflow, and the floor at 0 commutes with the sum, because both scores lose at most what is left.
-/

namespace CloudGraph

/-! ## Counts -/

section Counts

variable {α β : Type} {rank : α → Nat} {count : α → Nat} {key : α} {keys : List α}

/-- The keys that occur, each with its count. -/
def occurring (count : α → Nat) (keys : List α) : List (α × Nat) :=
  (keys.map fun k => (k, count k)).filter fun e => 0 < e.2

/-- The count of one key raised by one. -/
def raised [DecidableEq α] (count : α → Nat) (key : α) (k : α) : Nat :=
  count k + if key = k then 1 else 0

theorem occurring_cons (count : α → Nat) (k : α) (keys : List α) :
    occurring count (k :: keys) =
      if 0 < count k then (k, count k) :: occurring count keys else occurring count keys := by
  by_cases h : 0 < count k <;> simp [occurring, h]

theorem occurring_congr {count' : α → Nat} (h : ∀ k ∈ keys, count k = count' k) :
    occurring count keys = occurring count' keys := by
  unfold occurring
  rw [List.map_congr_left fun k hk => by rw [h k hk]]

theorem mem_of_mem_occurring {e : α × Nat} (h : e ∈ occurring count keys) : e.1 ∈ keys := by
  obtain ⟨k, hk, rfl⟩ := List.mem_map.1 (List.mem_filter.1 h).1
  exact hk

theorem countUp_of_forall_lt {counts : List (α × Nat)} (h : ∀ e ∈ counts, rank key < rank e.1) :
    countUp rank key counts = (key, 1) :: counts := by
  cases counts with
  | nil => rfl
  | cons e rest => exact if_pos (h e (List.mem_cons_self ..))

/-- **One more key.** In the counts of all keys, only that of the key is raised. -/
theorem countUp_occurring [DecidableEq α]
    (hkeys : keys.Pairwise fun a b => rank a < rank b) (hmem : key ∈ keys) :
    countUp rank key (occurring count keys) = occurring (raised count key) keys := by
  induction keys with
  | nil => cases hmem
  | cons k keys ih =>
    obtain ⟨hk, hrest⟩ := List.pairwise_cons.1 hkeys
    rw [occurring_cons, occurring_cons]
    rcases List.mem_cons.1 hmem with rfl | hmem
    · have hother : occurring (raised count key) keys = occurring count keys := by
        refine occurring_congr fun k hmem => ?_
        have hne : key ≠ k := by
          rintro rfl
          exact Nat.lt_irrefl _ (hk key hmem)
        simp [raised, hne]
      have hraised : raised count key key = count key + 1 := by simp [raised]
      rw [hother, hraised, if_pos (Nat.succ_pos _)]
      by_cases hzero : 0 < count key
      · rw [if_pos hzero]
        simp [countUp]
      · rw [if_neg hzero, countUp_of_forall_lt fun e he => hk e.1 (mem_of_mem_occurring he)]
        simp [Nat.eq_zero_of_not_pos hzero]
    · have hlt := hk key hmem
      have hne : key ≠ k := by
        rintro rfl
        exact Nat.lt_irrefl _ hlt
      have hsame : raised count key k = count k := by simp [raised, hne]
      rw [hsame, ← ih hrest hmem]
      by_cases hzero : 0 < count k
      · rw [if_pos hzero, if_pos hzero, countUp, if_neg (Nat.lt_asymm hlt),
          if_neg (Nat.ne_of_gt hlt)]
      · rw [if_neg hzero, if_neg hzero]

/-- The counts of a list, its members counted one by one. -/
theorem foldl_countUp [DecidableEq α] (hkeys : keys.Pairwise fun a b => rank a < rank b)
    (hall : ∀ k, k ∈ keys) (f : β → α) (xs : List β) :
    xs.foldl (fun counts x => countUp rank (f x) counts) [] =
      occurring (fun k => xs.countP fun x => f x = k) keys := by
  have hrun : ∀ count, xs.foldl (fun counts x => countUp rank (f x) counts) (occurring count keys) =
      occurring (fun k => count k + xs.countP fun x => f x = k) keys := by
    induction xs with
    | nil => exact fun count => rfl
    | cons x xs ih =>
      intro count
      rw [List.foldl_cons, countUp_occurring hkeys (hall (f x)), ih]
      refine occurring_congr fun k _ => ?_
      rw [List.countP_cons, raised]
      by_cases hk : f x = k
      · simp [hk]
        omega
      · simp [hk]
  have hnone : occurring (fun _ : α => 0) keys = [] := by simp [occurring]
  rw [← hnone, hrun]
  simp

theorem countOf_occurring [DecidableEq α] (hmem : key ∈ keys) :
    countOf key (occurring count keys) = count key := by
  induction keys with
  | nil => cases hmem
  | cons k keys ih =>
    rw [occurring_cons]
    by_cases hk : k = key
    · subst hk
      by_cases hzero : 0 < count k
      · simp [countOf, hzero]
      · rw [if_neg hzero]
        by_cases hmem : k ∈ keys
        · exact ih hmem
        · have hnone : (occurring count keys).find? (·.1 == k) = none := by
            refine List.find?_eq_none.2 fun e he heq => hmem ?_
            exact beq_iff_eq.1 heq ▸ mem_of_mem_occurring he
          simp only [countOf, hnone]
          omega
    · have hmem : key ∈ keys := by simpa [Ne.symm hk] using hmem
      rw [← ih hmem]
      by_cases hzero : 0 < count k <;> simp [countOf, hzero, hk]

theorem total_occurring (count : α → Nat) (keys : List α) :
    total (·.2) (occurring count keys) = total count keys := by
  induction keys with
  | nil => rfl
  | cons k keys ih =>
    rw [occurring_cons, total_cons, ← ih]
    by_cases hzero : 0 < count k
    · rw [if_pos hzero, total_cons]
    · rw [if_neg hzero]
      omega

theorem total_raised [DecidableEq α] (hnodup : keys.Nodup) (hmem : key ∈ keys) :
    total (raised count key) keys = total count keys + 1 := by
  induction keys with
  | nil => cases hmem
  | cons k keys ih =>
    obtain ⟨hk, hnodup⟩ := List.nodup_cons.1 hnodup
    rw [total_cons, total_cons]
    rcases List.mem_cons.1 hmem with rfl | hmem
    · have hother : total (raised count key) keys = total count keys := by
        refine total_congr fun k hmem => ?_
        have hne : key ≠ k := fun h => hk (h ▸ hmem)
        simp [raised, hne]
      rw [hother]
      simp [raised]
      omega
    · have hne : key ≠ k := fun h => hk (h ▸ hmem)
      rw [ih hnodup hmem]
      simp [raised, hne]
      omega

/-- Each member of a list counts for one key. -/
theorem total_countP [DecidableEq α] (hnodup : keys.Nodup) (hall : ∀ k, k ∈ keys) (f : β → α)
    (xs : List β) : total (fun k => xs.countP fun x => f x = k) keys = xs.length := by
  induction xs with
  | nil =>
    show total (fun _ => 0) keys = 0
    clear hnodup hall
    induction keys with
    | nil => rfl
    | cons k keys ih => rw [total_cons, ih]
  | cons x xs ih =>
    have hraised : (fun k => (x :: xs).countP fun x => f x = k) =
        raised (fun k => xs.countP fun x => f x = k) (f x) := by
      funext k
      simp [List.countP_cons, raised]
    rw [hraised, total_raised hnodup (hall (f x)), ih, List.length_cons]

end Counts

/-! ## The closed form -/

theorem Severity.mem_all (v : Severity) : v ∈ Severity.all := by
  cases v <;> decide

theorem Severity.all_ranked : Severity.all.Pairwise fun a b => a.rank < b.rank := by
  decide

theorem RuleCategory.mem_all (c : RuleCategory) : c ∈ RuleCategory.all := by
  cases c <;> decide

theorem RuleCategory.all_ranked : RuleCategory.all.Pairwise fun a b => a.rank < b.rank := by
  decide

/-- The sum of the weights of findings. -/
def totalWeight (fs : List Finding) : Nat :=
  total (·.severity.weight.toNat) fs

namespace Tally

variable (fs : List Finding)

theorem bySeverity_foldl : (fs.foldl add {}).bySeverity =
    occurring (fun v => fs.countP fun f => f.severity = v) Severity.all := by
  rw [← foldl_countUp Severity.all_ranked Severity.mem_all Finding.severity fs]
  exact (List.foldl_hom Tally.bySeverity fun _ _ => rfl).symm

theorem byCategory_foldl : (fs.foldl add {}).byCategory =
    occurring (fun c => fs.countP fun f => f.category = c) RuleCategory.all := by
  rw [← foldl_countUp RuleCategory.all_ranked RuleCategory.mem_all Finding.category fs]
  exact (List.foldl_hom Tally.byCategory fun _ _ => rfl).symm

theorem penalty_foldl (t : Tally) :
    (fs.foldl add t).penalty = t.penalty + UInt32.ofNat (totalWeight fs) := by
  induction fs generalizing t with
  | nil => simp [totalWeight]
  | cons f fs ih =>
    rw [List.foldl_cons, ih]
    simp [add, totalWeight, UInt32.add_assoc]

end Tally

namespace Summary

variable {fs gs xs ys : List Finding}

theorem toNat_health (penalty : UInt32) : (health penalty).toNat = 100 - penalty.toNat := by
  unfold health
  split_ifs with h
  · have hle : penalty.toNat ≤ 100 := h
    rw [UInt32.toNat_toUInt8, UInt32.toNat_sub_of_le _ _ h]
    simp
    omega
  · have hlt : ¬ penalty.toNat ≤ 100 := h
    simp
    omega

theorem ofFindings_eq (fs : List Finding) :
    ofFindings fs = {
      total := fs.length
      bySeverity := occurring (fun v => fs.countP fun f => f.severity = v) Severity.all
      byCategory := occurring (fun c => fs.countP fun f => f.category = c) RuleCategory.all
      healthScore := health (UInt32.ofNat (totalWeight fs)) } := by
  rw [← Tally.bySeverity_foldl, ← Tally.byCategory_foldl]
  simp [ofFindings, Tally.penalty_foldl]

theorem toNat_healthScore (h : totalWeight fs < UInt32.size) :
    (ofFindings fs).healthScore.toNat = 100 - totalWeight fs := by
  rw [ofFindings_eq, toNat_health, UInt32.toNat_ofNat_of_lt' h]

theorem ofFindings_perm (h : fs.Perm gs) : ofFindings fs = ofFindings gs := by
  have hseverity := fun v => h.countP_eq fun f => decide (f.severity = v)
  have hcategory := fun c => h.countP_eq fun f => decide (f.category = c)
  rw [ofFindings_eq, ofFindings_eq, h.length_eq, totalWeight, totalWeight, total_perm _ h]
  simp only [hseverity, hcategory]

/-- **Summaries add up.** Of two lists behind each other, the totals are added, each map lists the
sums of the counts that are not 0, and the health scores are added, less 100 and not below 0. The
counts of a map sum up to the total, and the order of the findings does not count. -/
theorem summary_append (h : totalWeight (xs ++ ys) < UInt32.size) :
    let s := ofFindings xs
    let t := ofFindings ys
    let u := ofFindings (xs ++ ys)
    u.total = s.total + t.total ∧
      u.bySeverity =
        occurring (fun v => countOf v s.bySeverity + countOf v t.bySeverity) Severity.all ∧
      u.byCategory =
        occurring (fun c => countOf c s.byCategory + countOf c t.byCategory) RuleCategory.all ∧
      (u.healthScore.toNat : Int) = max 0 (s.healthScore.toNat + t.healthScore.toNat - 100) ∧
      CloudGraph.total (·.2) u.bySeverity = u.total ∧
      CloudGraph.total (·.2) u.byCategory = u.total ∧
      ∀ zs, zs.Perm (xs ++ ys) → ofFindings zs = u := by
  have hsum : totalWeight (xs ++ ys) = totalWeight xs + totalWeight ys := total_append _ xs ys
  refine ⟨?_, ?_, ?_, ?_, ?_, ?_, fun zs hzs => ofFindings_perm hzs⟩
  · simp [ofFindings_eq]
  · simp only [ofFindings_eq, countOf_occurring (Severity.mem_all _), List.countP_append]
  · simp only [ofFindings_eq, countOf_occurring (RuleCategory.mem_all _), List.countP_append]
  · rw [toNat_healthScore h, toNat_healthScore (by omega), toNat_healthScore (by omega)]
    omega
  · rw [ofFindings_eq, total_occurring]
    exact total_countP (by decide) Severity.mem_all Finding.severity (xs ++ ys)
  · rw [ofFindings_eq, total_occurring]
    exact total_countP (by decide) RuleCategory.mem_all Finding.category (xs ++ ys)

theorem summary_append_at_floor :
    ∃ xs ys : List Finding, totalWeight (xs ++ ys) < UInt32.size ∧
      xs.map (·.severity) = [.critical, .critical, .high] ∧
      ys.map (·.severity) = [.critical, .low, .critical] ∧
      (ofFindings xs).healthScore = 40 ∧ (ofFindings ys).healthScore = 49 ∧
      (ofFindings (xs ++ ys)).healthScore.toNat = 0 ∧
      (ofFindings (xs ++ ys)).bySeverity = [(.low, 1), (.high, 1), (.critical, 4)] := by
  let finding (v : Severity) : Finding := {
    id := "f", ruleId := "r", severity := v, category := .security, title := "T"
    description := "", affected := [], remediation := "" }
  let xs := [finding .critical, finding .critical, finding .high]
  let ys := [finding .critical, finding .low, finding .critical]
  have hbound : totalWeight (xs ++ ys) < UInt32.size := by decide +kernel
  have hxs : (ofFindings xs).healthScore = 40 := by decide +kernel
  have hys : (ofFindings ys).healthScore = 49 := by decide +kernel
  obtain ⟨-, hseverity, -, hhealth, -⟩ := summary_append hbound
  refine ⟨xs, ys, hbound, rfl, rfl, hxs, hys, ?_, ?_⟩
  · rw [hxs, hys] at hhealth
    exact Int.ofNat.inj hhealth
  · rw [hseverity]
    decide +kernel

end Summary

end CloudGraph

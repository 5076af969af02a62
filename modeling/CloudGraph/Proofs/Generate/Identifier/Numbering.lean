import CloudGraph.Proofs.Generate.Identifier.Allocation
import Mathlib.Logic.Function.Iterate

/-!
# The search for a free number ends

An identifier that is taken gets a number. `Numbering.turn` is the search for it as a loop that
counts on without a bound, and inserts the first variant that is not in use.

**Theorem (`allocate_terminates`).** Whatever names are in use, whatever the length bound, even 0
or less than a suffix takes, the loop finds a name, in fewer turns than twenty times the number of
names in use. The name is new, and it is the only one that comes into use.

That the loop ends does not follow from the variants being many: variants of different widths may
coincide. It follows within one width, where they differ (`exists_new_variant`).
-/

namespace CloudGraph.NameAllocator

/-- Where the search for a number stands. -/
inductive Numbering where
  /-- The number to try next, and the names in use. -/
  | trying (n : Nat) (used : List String)
  /-- The name that was new, and the names in use with it. -/
  | found (name : String) (used : List String)

namespace Numbering

/-- A turn inserts the variant with the number. Where that was in use, the next number is due. -/
def turn (a : NameAllocator) (base : String) : Numbering → Numbering
  | trying n used =>
    let name := a.variant base n
    if name ∈ used then trying (n + 1) used else found name (name :: used)
  | found name used => found name used

variable {a : NameAllocator} {base : String} {n : Nat} {used : List String}

theorem turn_of_mem (h : a.variant base n ∈ used) :
    turn a base (trying n used) = trying (n + 1) used := by
  simp [turn, h]

theorem turn_of_not_mem (h : a.variant base n ∉ used) :
    turn a base (trying n used) = found (a.variant base n) (a.variant base n :: used) := by
  simp [turn, h]

/-- Turns over variants in use only count. -/
theorem iterate_turn_of_forall_mem {k : Nat}
    (h : ∀ m, n ≤ m → m < n + k → a.variant base m ∈ used) :
    (turn a base)^[k] (trying n used) = trying (n + k) used := by
  induction k with
  | zero => rfl
  | succ k ih =>
    have hbefore : ∀ m, n ≤ m → m < n + k → a.variant base m ∈ used := fun m hnm hm =>
      h m hnm (by omega)
    rw [Function.iterate_succ_apply', ih hbefore]
    exact turn_of_mem (h (n + k) (by omega) (by omega))

/-- The loop stops at the first new variant. -/
theorem iterate_turn_eq_found {m : Nat} (hnm : n ≤ m) (hnew : a.variant base m ∉ used)
    (htaken : ∀ j, n ≤ j → j < m → a.variant base j ∈ used) :
    (turn a base)^[m - n + 1] (trying n used) =
      found (a.variant base m) (a.variant base m :: used) := by
  have hcount : (turn a base)^[m - n] (trying n used) = trying m used := by
    have hturns := iterate_turn_of_forall_mem (k := m - n) fun j hnj hj =>
      htaken j hnj (by omega)
    rwa [Nat.add_sub_cancel' hnm] at hturns
  rw [Function.iterate_succ_apply', hcount]
  exact turn_of_not_mem hnew

end Numbering

/-- **Allocation ends with one new name.** An identifier that is not in use is taken as it is.
For any other the loop over the numbers from 2 on ends, with the name that is handed out. That
name was not in use, and no other comes into use with it. -/
theorem allocate_terminates (a : NameAllocator) (raw : String) :
    let base := Identifier.sanitize a.style raw a.maxLength
    let name := (a.allocate raw).1
    let used := (a.allocate raw).2.used
    (base ∉ a.used ∧ name = base ∨
      base ∈ a.used ∧ ∃ turns < 20 * a.used.length,
        (Numbering.turn a base)^[turns] (.trying 2 a.used) = .found name used) ∧
    name ∉ a.used ∧ ∀ other, other ∈ used ↔ other = name ∨ other ∈ a.used := by
  intro base name used
  have hname : name = a.choose raw := rfl
  have hused : used = name :: a.used := rfl
  refine ⟨?_, choose_not_mem_used a raw, fun other => ?_⟩
  · by_cases hbase : base ∈ a.used
    · obtain ⟨n, htwo, hn, heq, hnew, htaken⟩ := choose_of_mem_used hbase
      have hlog := pow_succ_log_le (Nat.ne_of_gt (List.length_pos_of_mem hbase))
      refine .inr ⟨hbase, n - 2 + 1, by omega, ?_⟩
      rw [hused, hname, heq]
      exact Numbering.iterate_turn_eq_found htwo hnew htaken
    · exact .inl ⟨hbase, choose_of_not_mem_used hbase⟩
  · rw [hused]
    exact List.mem_cons

/-- With room for one character a number takes the place of the whole name. Two digits exceed the
room, and still the loop goes on to them. -/
example :
    (allocateAll { maxLength := 1, style := .alphanumeric, used := ["3", "10"] }
      (List.replicate 9 "db")).1 = ["d", "2", "4", "5", "6", "7", "8", "9", "11"] := by
  decide +kernel

end CloudGraph.NameAllocator

import CloudGraph.Generate.Dependencies
import Mathlib.Algebra.BigOperators.Group.Finset.Basic
import Mathlib.Logic.Relation

/-!
# What the search finds

`DependencyTable.dependsOn` is a depth-first search on a stack. On every table, with cycles or
without, it finds just the goals that arrows lead to (`dependsOn_iff_leads`).

`DependencyTable.search` has fuel, and puts what an index depends on in front of the stack. `Turn`
is the search without either choice: a relation between its stages, which leaves the number of
turns open and what becomes of the order of the stack.

**It ends** (`Turn.cost_eq`). A turn lowers the `cost` by one, that is the length of the stack and
the arrows of the indices not yet expanded (`pending`), taken together. An entry that is on the
stack twice is counted twice among the arrows. The fuel is the cost at the start, so the search is
a run to the end (`exists_run_search`).

**It is right** (`OnTrack.answer_iff`). All on the stack can be reached. Whatever an expanded index
depends on is expanded or waits on the stack (`Explored`), so a search that runs out of stack has
expanded all that the start leads to.
-/

namespace CloudGraph.DependencyTable

open Relation

/-- `i` depends on `j`. -/
def Arrow (t : DependencyTable) (i j : Nat) : Prop := j ∈ t.row i

/-- Arrows lead from one index to another, or the two are equal. -/
def Leads (t : DependencyTable) : Nat → Nat → Prop := ReflTransGen t.Arrow

/-! ## Rows -/

theorem row_eq_nil_of_size_le {t : DependencyTable} {i : Nat} (h : t.size ≤ i) : t.row i = [] := by
  unfold row
  rw [List.getElem?_eq_none h]
  rfl

theorem Arrow.lt_size {t : DependencyTable} {i j : Nat} (h : t.Arrow i j) : i < t.size := by
  by_contra hi
  unfold Arrow at h
  rw [row_eq_nil_of_size_le (Nat.le_of_not_lt hi)] at h
  exact List.not_mem_nil h

/-! ## The budget -/

/-- The number of arrows that start at an index not yet visited. -/
def pending (t : DependencyTable) (visited : List Nat) : Nat :=
  ∑ i ∈ Finset.range t.size with i ∉ visited, (t.row i).length

theorem total_length_eq_sum (rows : List (List Nat)) :
    total List.length rows = ∑ i ∈ Finset.range rows.length, (rows[i]?.getD []).length := by
  induction rows with
  | nil => rfl
  | cons row rows ih =>
    rw [total_cons, List.length_cons, Finset.sum_range_succ', ih, Nat.add_comm]
    simp

theorem pending_nil (t : DependencyTable) : t.pending [] = t.arrowCount := by
  simp [pending, arrowCount, total_length_eq_sum, row, size]

/-- Visiting an index pays for its arrows. -/
theorem length_row_add_pending_cons {t : DependencyTable} {current : Nat} {visited : List Nat}
    (h : current ∉ visited) :
    (t.row current).length + t.pending (current :: visited) = t.pending visited := by
  unfold pending
  by_cases hlt : current < t.size
  · have herase : (Finset.range t.size).filter (· ∉ current :: visited) =
        ((Finset.range t.size).filter (· ∉ visited)).erase current := by
      ext i
      simp only [Finset.mem_filter, Finset.mem_erase, List.mem_cons, not_or]
      tauto
    rw [herase]
    exact Finset.add_sum_erase _ (fun i => (t.row i).length)
      (Finset.mem_filter.2 ⟨Finset.mem_range.2 hlt, h⟩)
  · have hsame : (Finset.range t.size).filter (· ∉ current :: visited) =
        (Finset.range t.size).filter (· ∉ visited) := by
      refine Finset.filter_congr fun i hi => ?_
      have : i ≠ current := by have := Finset.mem_range.1 hi; omega
      simp [this]
    rw [hsame, row_eq_nil_of_size_le (Nat.le_of_not_lt hlt), List.length_nil, Nat.zero_add]

/-! ## Turns -/

/-- The search between two turns. -/
structure Stage where
  /-- The indices already expanded. -/
  visited : List Nat
  /-- The indices to look at. -/
  stack : List Nat

/-- An index was expanded or waits on the stack. -/
def Stage.Holds (s : Stage) (i : Nat) : Prop := i ∈ s.visited ∨ i ∈ s.stack

/-- A turn of the search for `goal` looks at the index on top of the stack. -/
inductive Turn (t : DependencyTable) (goal : Nat) : Stage → Stage → Prop
  /-- An index that was expanded before is dropped. -/
  | drop {visited stack : List Nat} {current : Nat} (hgoal : current ≠ goal)
    (hseen : current ∈ visited) : Turn t goal ⟨visited, current :: stack⟩ ⟨visited, stack⟩
  /-- Any other is expanded: what it depends on joins the stack, in any order. -/
  | expand {visited stack stack' : List Nat} {current : Nat} (hgoal : current ≠ goal)
    (hnew : current ∉ visited) (hstack : stack'.Perm (t.row current ++ stack)) :
    Turn t goal ⟨visited, current :: stack⟩ ⟨current :: visited, stack'⟩

/-- A run of `k` turns. -/
inductive Run (t : DependencyTable) (goal : Nat) : Nat → Stage → Stage → Prop
  | refl (s : Stage) : Run t goal 0 s s
  | head {k : Nat} {s s' s'' : Stage} (hturn : t.Turn goal s s') (h : Run t goal k s' s'') :
    Run t goal (k + 1) s s''

/-- The answer of a search that is over: yes with the goal on top of the stack, no with nothing
left on it. -/
inductive Answers (goal : Nat) : Stage → Bool → Prop
  | no (visited : List Nat) : Answers goal ⟨visited, []⟩ false
  | yes (visited stack : List Nat) : Answers goal ⟨visited, goal :: stack⟩ true

variable {t : DependencyTable} {start goal k : Nat} {s s' : Stage} {answer : Bool}

/-! ## The search ends -/

/-- The most turns that a search can still take. -/
def cost (t : DependencyTable) (s : Stage) : Nat :=
  s.stack.length + t.pending s.visited

theorem Turn.cost_eq (h : t.Turn goal s s') : t.cost s' + 1 = t.cost s := by
  cases h with
  | drop => simp [cost, Nat.add_right_comm]
  | expand _ hnew hstack =>
    have hrow := length_row_add_pending_cons (t := t) hnew
    simp only [cost, hstack.length_eq, List.length_append, List.length_cons]
    omega

theorem Run.add_cost (h : t.Run goal k s s') : k + t.cost s' = t.cost s := by
  induction h with
  | refl => exact Nat.zero_add _
  | head hturn _ ih =>
    have := hturn.cost_eq
    omega

theorem cost_start (t : DependencyTable) (start : Nat) :
    t.cost ⟨[], [start]⟩ = t.arrowCount + 1 := by
  simp [cost, pending_nil, Nat.add_comm]

/-- With fuel for the most turns it can take, `search` is a run to the end. -/
theorem exists_run_search {fuel : Nat} {visited stack : List Nat}
    (hfuel : t.cost ⟨visited, stack⟩ ≤ fuel) :
    ∃ k s, t.Run goal k ⟨visited, stack⟩ s ∧ Answers goal s (t.search goal fuel visited stack) := by
  induction fuel generalizing visited stack with
  | zero =>
    have hempty : stack.length ≤ 0 := (Nat.le_add_right ..).trans hfuel
    obtain rfl : stack = [] := List.eq_nil_of_length_eq_zero (Nat.le_zero.1 hempty)
    exact ⟨0, _, .refl _, .no visited⟩
  | succ fuel ih =>
    cases stack with
    | nil => exact ⟨0, _, .refl _, .no visited⟩
    | cons current stack =>
      unfold search
      split_ifs with hgoal hseen
      · subst hgoal
        exact ⟨0, _, .refl _, .yes visited stack⟩
      · have hturn : t.Turn goal ⟨visited, current :: stack⟩ ⟨visited, stack⟩ :=
          .drop hgoal (List.contains_iff_mem.1 hseen)
        have hcost := hturn.cost_eq
        have hrest : t.cost ⟨visited, stack⟩ ≤ fuel := by omega
        obtain ⟨k, s, hrun, hanswer⟩ := ih hrest
        exact ⟨k + 1, s, .head hturn hrun, hanswer⟩
      · have hturn : t.Turn goal ⟨visited, current :: stack⟩
            ⟨current :: visited, t.row current ++ stack⟩ :=
          .expand hgoal (mt List.contains_iff_mem.2 hseen) (.refl _)
        have hcost := hturn.cost_eq
        have hrest : t.cost ⟨current :: visited, t.row current ++ stack⟩ ≤ fuel := by omega
        obtain ⟨k, s, hrun, hanswer⟩ := ih hrest
        exact ⟨k + 1, s, .head hturn hrun, hanswer⟩

theorem exists_run_dependsOn (t : DependencyTable) (start goal : Nat) :
    ∃ k s, t.Run goal k ⟨[], [start]⟩ s ∧ Answers goal s (t.dependsOn start goal) :=
  exists_run_search (Nat.le_of_eq (t.cost_start start))

/-! ## The search is right -/

/-- The frontier invariant: no expanded index is the goal, and what it depends on is expanded
or waits on the stack. -/
def Explored (t : DependencyTable) (goal : Nat) (visited stack : List Nat) : Prop :=
  ∀ v ∈ visited, v ≠ goal ∧ ∀ w, t.Arrow v w → w ∈ visited ∨ w ∈ stack

/-- With nothing left on the stack, expanded indices lead only to expanded ones. -/
theorem Explored.not_leads {visited : List Nat}
    (h : t.Explored goal visited []) {s : Nat} (hs : s ∈ visited) : ¬ t.Leads s goal := by
  have hclosed : ∀ i, t.Leads s i → i ∈ visited := by
    intro i hi
    induction hi with
    | refl => exact hs
    | tail _ harrow ih => simpa using (h _ ih).2 _ harrow
  exact fun hlead => (h goal (hclosed goal hlead)).1 rfl

/-- A turn loses no index: what leaves the stack is expanded. -/
theorem Turn.holds (hturn : t.Turn goal s s') {i : Nat} (h : s.Holds i) : s'.Holds i := by
  cases hturn with
  | drop hgoal hseen =>
    rcases h with h | h
    · exact .inl h
    · rcases List.mem_cons.1 h with rfl | h
      · exact .inl hseen
      · exact .inr h
  | expand hgoal hnew hstack =>
    rcases h with h | h
    · exact .inl (List.mem_cons_of_mem _ h)
    · rcases List.mem_cons.1 h with rfl | h
      · exact .inl List.mem_cons_self
      · exact .inr (hstack.mem_iff.2 (List.mem_append_right _ h))

theorem Explored.turn (h : t.Explored goal s.visited s.stack) (hturn : t.Turn goal s s') :
    t.Explored goal s'.visited s'.stack := by
  intro i hi
  have hbefore : i ∈ s.visited → i ≠ goal ∧ ∀ j, t.Arrow i j → s'.Holds j := fun hi =>
    ⟨(h i hi).1, fun j hj => hturn.holds ((h i hi).2 j hj)⟩
  cases hturn with
  | drop => exact hbefore hi
  | expand hgoal hnew hstack =>
    rcases List.mem_cons.1 hi with rfl | hi
    · exact ⟨hgoal, fun j hj => .inr (hstack.mem_iff.2 (List.mem_append_left _ hj))⟩
    · exact hbefore hi

/-- What each turn keeps of a search from `start`. -/
structure OnTrack (t : DependencyTable) (start goal : Nat) (s : Stage) : Prop where
  held : s.Holds start
  reached : ∀ i ∈ s.stack, t.Leads start i
  explored : t.Explored goal s.visited s.stack

theorem onTrack_start (t : DependencyTable) (start goal : Nat) :
    t.OnTrack start goal ⟨[], [start]⟩ where
  held := .inr (List.mem_singleton_self start)
  reached := by
    intro i hi
    obtain rfl := List.mem_singleton.1 hi
    exact .refl
  explored := fun i hi => absurd hi List.not_mem_nil

theorem OnTrack.turn (h : t.OnTrack start goal s) (hturn : t.Turn goal s s') :
    t.OnTrack start goal s' where
  held := hturn.holds h.held
  reached := by
    intro i hi
    cases hturn with
    | drop => exact h.reached i (List.mem_cons_of_mem _ hi)
    | expand hgoal hnew hstack =>
      rcases List.mem_append.1 (hstack.mem_iff.1 hi) with hi | hi
      · exact (h.reached _ List.mem_cons_self).tail hi
      · exact h.reached i (List.mem_cons_of_mem _ hi)
  explored := h.explored.turn hturn

theorem OnTrack.run (h : t.OnTrack start goal s) (hrun : t.Run goal k s s') :
    t.OnTrack start goal s' := by
  induction hrun with
  | refl => exact h
  | head hturn _ ih => exact ih (h.turn hturn)

theorem OnTrack.answer_iff (h : t.OnTrack start goal s) (hanswer : Answers goal s answer) :
    answer = true ↔ t.Leads start goal := by
  cases hanswer with
  | no =>
    have hstart := h.held.resolve_right List.not_mem_nil
    simp [h.explored.not_leads hstart]
  | yes => simp [h.reached goal List.mem_cons_self]

theorem dependsOn_iff_leads : t.dependsOn start goal = true ↔ t.Leads start goal := by
  obtain ⟨k, s, hrun, hanswer⟩ := exists_run_dependsOn t start goal
  exact ((t.onTrack_start start goal).run hrun).answer_iff hanswer

end CloudGraph.DependencyTable

import CloudGraph.Proofs.Generate.Dependencies.Acyclic

/-!
# The search ends, in whatever order it goes

**Theorem (`dependsOn_terminates`).** On every table, with cycles and with entries given twice,
each run of the search has at most one turn for the start and one for each arrow. A run that cannot
go on has an answer, whether arrows lead from the start to the goal, and `dependsOn` gives this
answer.
-/

namespace CloudGraph.DependencyTable

open Relation

variable {t : DependencyTable} {start goal k : Nat} {s s' : Stage} {answer : Bool}

/-- A search that is not over goes on. -/
theorem forall_not_turn_iff : (∀ s', ¬ t.Turn goal s s') ↔ ∃ answer, Answers goal s answer := by
  obtain ⟨visited, stack⟩ := s
  constructor
  · intro hstuck
    cases stack with
    | nil => exact ⟨false, .no visited⟩
    | cons current stack =>
      by_cases hgoal : current = goal
      · subst hgoal
        exact ⟨true, .yes visited stack⟩
      · by_cases hseen : current ∈ visited
        · exact absurd (.drop hgoal hseen) (hstuck _)
        · exact absurd (.expand hgoal hseen (.refl _)) (hstuck _)
  · rintro ⟨answer, hanswer⟩ s' hturn
    cases hanswer with
    | no => cases hturn
    | yes =>
      cases hturn with
      | drop hgoal => exact hgoal rfl
      | expand hgoal => exact hgoal rfl

theorem OnTrack.answer_eq (h : t.OnTrack start goal s) (hanswer : Answers goal s answer) :
    answer = t.dependsOn start goal := by
  rw [Bool.eq_iff_iff, h.answer_iff hanswer, dependsOn_iff_leads]

theorem Leads.lt_size (hclosed : t.Closed) (hstart : start < t.size) {i : Nat}
    (h : t.Leads start i) : i < t.size := by
  cases h with
  | refl => exact hstart
  | tail _ harrow => exact hclosed _ _ harrow

/-- **The search ends with the right answer.** Each run has a bounded number of turns, and it
stops just where it has the answer of `dependsOn`; some run does stop. The answer is yes just if
the goal is the start or arrows lead to it. Where all arrows end at indices of the table, and the
start is one, only such indices are looked at. -/
theorem dependsOn_terminates (t : DependencyTable) (start goal : Nat) :
    (∀ k s, t.Run goal k ⟨[], [start]⟩ s → k ≤ t.arrowCount + 1 ∧
      ((∀ s', ¬ t.Turn goal s s') ↔ Answers goal s (t.dependsOn start goal))) ∧
    (∃ k s, t.Run goal k ⟨[], [start]⟩ s ∧ Answers goal s (t.dependsOn start goal)) ∧
    (t.dependsOn start goal = true ↔ goal = start ∨ TransGen t.Arrow start goal) ∧
    (t.Closed → start < t.size →
      ∀ k s, t.Run goal k ⟨[], [start]⟩ s → ∀ i ∈ s.stack, i < t.size) := by
  have hcost := t.cost_start start
  have htrack := t.onTrack_start start goal
  refine ⟨fun k s hrun => ⟨?_, ?_⟩, ?_, ?_, ?_⟩
  · have := hrun.add_cost
    omega
  · rw [forall_not_turn_iff]
    constructor
    · rintro ⟨answer, hanswer⟩
      rwa [← (htrack.run hrun).answer_eq hanswer]
    · exact fun hanswer => ⟨_, hanswer⟩
  · exact t.exists_run_dependsOn start goal
  · rw [dependsOn_iff_leads]
    exact reflTransGen_iff_eq_or_transGen
  · intro hclosed hstart k s hrun i hi
    exact ((htrack.run hrun).reached i hi).lt_size hclosed hstart

/-- Indices 0, 1 and 2 depend on each other, one of them twice on another and one on itself; 3
depends on them, and they not on 3. -/
theorem dependsOn_terminates_cyclic :
    ∃ t : DependencyTable, t = ⟨[[1, 1, 2], [0], [2, 1], [0]]⟩ ∧ t.Closed ∧ 0 < t.size ∧
      t.dependsOn 0 3 = false ∧ ¬ (3 = 0 ∨ TransGen t.Arrow 0 3) ∧
      t.dependsOn 3 2 = true ∧ (2 = 3 ∨ TransGen t.Arrow 3 2) ∧
      ∀ k s, t.Run 3 k ⟨[], [0]⟩ s → k ≤ 8 ∧ ∀ i ∈ s.stack, i < 4 := by
  refine ⟨_, rfl, ?_⟩
  set t : DependencyTable := ⟨[[1, 1, 2], [0], [2, 1], [0]]⟩ with ht
  have hclosed : t.Closed := by
    have hrows : ∀ i < t.size, ∀ j ∈ t.row i, j < t.size := by decide
    exact fun i j h => hrows i h.lt_size j h
  have hsize : 0 < t.size := by decide
  have hno : t.dependsOn 0 3 = false := by decide
  have hyes : t.dependsOn 3 2 = true := by decide
  obtain ⟨hruns, -, hanswer, hinside⟩ := dependsOn_terminates t 0 3
  refine ⟨hclosed, hsize, hno, ?_, hyes, (dependsOn_terminates t 3 2).2.2.1.1 hyes, ?_⟩
  · rw [← hanswer, hno]
    exact Bool.false_ne_true
  · exact fun k s hrun => ⟨(hruns k s hrun).1, hinside hclosed hsize k s hrun⟩

end CloudGraph.DependencyTable

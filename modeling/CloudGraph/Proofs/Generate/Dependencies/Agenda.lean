import CloudGraph.Proofs.Generate.Dependencies.Search
import Mathlib.Data.List.Sort

/-!
# The counters of the order

`DependencyTable.order` counts, for each index, the dependencies that are not placed, and keeps
the indices that may come next in a list. The theorems about the order are told more easily of a
search without counters: `placeFrom` looks each time for the first waiting index whose
dependencies are all placed. The two agree on every table (`order_eq`).

The invariant has two parts. `Placing` is about the search: what is placed or waits, and that
what is placed depends on placed indices only. `Tracks` is about the counters: they count what
they should, and the ready list is the part of the waiting indices that the search would accept.
-/

namespace CloudGraph.DependencyTable

/-! ## The order without counters -/

/-- The first index whose dependencies are all placed. -/
def next? (t : DependencyTable) (placed waiting : List Nat) : Option Nat :=
  waiting.find? fun i => (t.row i).all placed.contains

/-- Place what is waiting, as long as something may come next. -/
def placeFrom (t : DependencyTable) : Nat → List Nat → List Nat → List Nat
  | 0, _, _ => []
  | fuel + 1, placed, waiting =>
    match t.next? placed waiting with
    | some i => i :: placeFrom t fuel (i :: placed) (waiting.erase i)
    | none => []

variable {t : DependencyTable}

theorem all_contains_iff {placed : List Nat} {i : Nat} :
    (t.row i).all placed.contains = true ↔ ∀ j, t.Arrow i j → j ∈ placed := by
  rw [List.all_eq_true]
  exact forall₂_congr fun j _ => List.contains_iff_mem

theorem countP_row_eq_zero_iff {placed : List Nat} {i : Nat} :
    (t.row i).countP (· ∉ placed) = 0 ↔ ∀ j, t.Arrow i j → j ∈ placed := by
  rw [List.countP_eq_zero]
  exact forall₂_congr fun j _ => by rw [decide_eq_true_eq, not_not]

/-! ## Releasing indices -/

namespace Agenda

theorem mem_insert {i j : Nat} {ready : List Nat} : j ∈ insert i ready ↔ j = i ∨ j ∈ ready := by
  induction ready with
  | nil => simp [insert]
  | cons k rest ih =>
    unfold insert
    split_ifs with hlt heq
    · rw [List.mem_cons]
    · subst heq
      simp
    · rw [List.mem_cons, List.mem_cons, ih]
      tauto

theorem pairwise_insert {i : Nat} {ready : List Nat} (h : ready.Pairwise (· < ·)) :
    (insert i ready).Pairwise (· < ·) := by
  induction ready with
  | nil => exact List.pairwise_singleton _ i
  | cons k rest ih =>
    obtain ⟨hk, hrest⟩ := List.pairwise_cons.1 h
    unfold insert
    split_ifs with hlt heq
    · refine List.pairwise_cons.2 ⟨fun j hj => ?_, h⟩
      rcases List.mem_cons.1 hj with rfl | hj
      · exact hlt
      · exact hlt.trans (hk j hj)
    · exact h
    · refine List.pairwise_cons.2 ⟨fun j hj => ?_, ih hrest⟩
      rcases mem_insert.1 hj with rfl | hj
      · omega
      · exact hk j hj

variable {a : Agenda} {released : List Nat}

theorem remaining_foldl (j : Nat) :
    (released.foldl release a).remaining[j]? =
      a.remaining[j]?.map (· - released.count j) := by
  induction released generalizing a with
  | nil => simp
  | cons i released ih =>
    rw [List.foldl_cons, ih]
    unfold release
    rw [List.getElem?_modify, Option.map_eq_map, Option.map_map, List.count_cons]
    refine congrArg (Option.map · _) (funext fun n => ?_)
    by_cases hij : i = j
    · simp only [Function.comp_apply, hij, if_true, beq_self_eq_true]
      omega
    · simp [hij]

theorem pairwise_ready_foldl (h : a.ready.Pairwise (· < ·)) :
    (released.foldl release a).ready.Pairwise (· < ·) := by
  induction released generalizing a with
  | nil => exact h
  | cons i released ih =>
    refine ih ?_
    unfold release
    dsimp only
    split_ifs
    · exact pairwise_insert h
    · exact h

/-- Releasing makes an index ready just if it was released and its counter came to zero. -/
theorem mem_ready_foldl {j : Nat} :
    j ∈ (released.foldl release a).ready ↔
      j ∈ a.ready ∨
        (j ∈ released ∧ (released.foldl release a).remaining[j]? = some 0) := by
  induction released generalizing a with
  | nil => simp
  | cons i released ih =>
    have hfirst : j ∈ (a.release i).ready ↔
        j ∈ a.ready ∨ (j = i ∧ (a.release i).remaining[j]? = some 0) := by
      unfold release
      dsimp only
      split_ifs with hzero
      · rw [mem_insert]
        constructor
        · rintro (rfl | h)
          · exact .inr ⟨rfl, hzero⟩
          · exact .inl h
        · rintro (h | ⟨rfl, -⟩)
          · exact .inr h
          · exact .inl rfl
      · refine ⟨.inl, fun h => h.resolve_right ?_⟩
        rintro ⟨rfl, h⟩
        exact hzero h
    rw [List.foldl_cons, ih, hfirst, List.mem_cons, or_assoc]
    refine or_congr_right ?_
    by_cases hj : j ∈ released
    · -- A counter at zero stays there.
      have hstay (h : (a.release i).remaining[j]? = some 0) :
          (released.foldl release (a.release i)).remaining[j]? = some 0 := by
        rw [remaining_foldl, h, Option.map_some, Nat.zero_sub]
      constructor
      · rintro (⟨rfl, h⟩ | h)
        · exact ⟨.inl rfl, hstay h⟩
        · exact ⟨.inr h.1, h.2⟩
      · exact fun h => .inr ⟨hj, h.2⟩
    · have hsame : (released.foldl release (a.release i)).remaining[j]? =
          (a.release i).remaining[j]? := by
        rw [remaining_foldl, List.count_eq_zero_of_not_mem hj]
        simp
      rw [hsame]
      simp [hj]

end Agenda

theorem count_flatMap_replicate {n : Nat → Nat} {k : Nat} {l : List Nat} (h : l.Nodup) :
    (l.flatMap fun j => List.replicate (n j) j).count k = if k ∈ l then n k else 0 := by
  induction l with
  | nil => rfl
  | cons j l ih =>
    obtain ⟨hj, hl⟩ := List.nodup_cons.1 h
    rw [List.flatMap_cons, List.count_append, ih hl, List.count_replicate]
    by_cases hk : k = j
    · subst hk
      simp [hj]
    · simp [hk, Ne.symm hk]

theorem count_dependents {i k : Nat} (h : k < t.size) :
    (t.dependents i).count k = (t.row k).count i := by
  unfold dependents
  rw [count_flatMap_replicate List.nodup_range, if_pos (List.mem_range.2 h)]

theorem mem_dependents_iff {i k : Nat} : k ∈ t.dependents i ↔ t.Arrow k i := by
  unfold dependents Arrow
  rw [List.mem_flatMap]
  constructor
  · rintro ⟨j, -, hk⟩
    obtain ⟨hcount, rfl⟩ := List.mem_replicate.1 hk
    exact List.count_pos_iff.1 (Nat.pos_of_ne_zero hcount)
  · intro h
    exact ⟨k, List.mem_range.2 (Arrow.lt_size h),
      List.mem_replicate.2 ⟨(List.count_pos_iff.2 h).ne', rfl⟩⟩

/-! ## The invariant -/

/-- The state of the search: an index is placed or waits, and what is placed depends on placed
indices only. -/
structure Placing (t : DependencyTable) (placed waiting : List Nat) : Prop where
  ascending : waiting.Pairwise (· < ·)
  mem_waiting : ∀ k, k ∈ waiting ↔ k < t.size ∧ k ∉ placed
  closed : ∀ i ∈ placed, ∀ j, t.Arrow i j → j ∈ placed

/-- The counters agree with the state of the search. -/
structure Tracks (t : DependencyTable) (placed waiting : List Nat) (a : Agenda) : Prop where
  remaining : ∀ k < t.size, a.remaining[k]? = some ((t.row k).countP (· ∉ placed))
  ready : a.ready = waiting.filter fun k => (t.row k).all placed.contains

theorem placing_start (t : DependencyTable) : t.Placing [] (List.range t.size) where
  ascending := List.pairwise_lt_range
  mem_waiting k := by simp
  closed i h := absurd h List.not_mem_nil

theorem tracks_agenda (t : DependencyTable) : t.Tracks [] (List.range t.size) t.agenda where
  remaining k hk := by
    unfold size at hk
    simp [agenda, row, hk]
  ready := by
    refine List.filter_congr fun k _ => ?_
    cases t.row k <;> rfl

theorem Tracks.next?_eq {placed waiting : List Nat} {a : Agenda}
    (h : t.Tracks placed waiting a) : t.next? placed waiting = a.ready.head? := by
  rw [h.ready, List.head?_filter]
  rfl

section step

variable {placed waiting ready : List Nat} {remaining : List Nat} {i : Nat}

theorem Tracks.mem_ready_iff {a : Agenda} (h : t.Tracks placed waiting a) {k : Nat} :
    k ∈ a.ready ↔ k ∈ waiting ∧ ∀ j, t.Arrow k j → j ∈ placed := by
  rw [h.ready, List.mem_filter, all_contains_iff]

theorem Placing.step (h : t.Placing placed waiting) (hi : i ∈ waiting)
    (hfree : ∀ j, t.Arrow i j → j ∈ placed) : t.Placing (i :: placed) (waiting.erase i) where
  ascending := h.ascending.sublist List.erase_sublist
  mem_waiting k := by
    rw [h.ascending.nodup.mem_erase_iff, h.mem_waiting, List.mem_cons]
    tauto
  closed k hk j harrow := by
    refine List.mem_cons_of_mem i ?_
    rcases List.mem_cons.1 hk with rfl | hk
    · exact hfree j harrow
    · exact h.closed k hk j harrow

/-- Placing an index takes it off the count of each index that depends on it. -/
theorem countP_not_mem_cons (row : List Nat) (hi : i ∉ placed) :
    row.countP (· ∉ placed) = row.countP (· ∉ i :: placed) + row.count i := by
  induction row with
  | nil => rfl
  | cons j row ih =>
    rw [List.countP_cons, List.countP_cons, List.count_cons, ih]
    by_cases hj : j = i
    · subst hj
      simp [hi]
      omega
    · simp [hj]
      omega

theorem Tracks.step (h : t.Tracks placed waiting ⟨remaining, i :: ready⟩)
    (hplacing : t.Placing placed waiting) :
    t.Tracks (i :: placed) (waiting.erase i)
      ((t.dependents i).foldl Agenda.release ⟨remaining, ready⟩) := by
  obtain ⟨hi, hfree⟩ := h.mem_ready_iff.1 (List.mem_cons_self ..)
  have hnew : i ∉ placed := ((hplacing.mem_waiting i).1 hi).2
  have hready : i :: ready = waiting.filter fun k => (t.row k).all placed.contains := h.ready
  obtain ⟨hleast, hascending⟩ : (∀ k ∈ ready, i < k) ∧ ready.Pairwise (· < ·) := by
    rw [← List.pairwise_cons, hready]
    exact hplacing.ascending.sublist List.filter_sublist
  have hremaining : ∀ k < t.size,
      ((t.dependents i).foldl Agenda.release ⟨remaining, ready⟩).remaining[k]? =
        some ((t.row k).countP (· ∉ i :: placed)) := by
    intro k hk
    rw [Agenda.remaining_foldl]
    show remaining[k]?.map _ = _
    rw [h.remaining k hk, Option.map_some, count_dependents hk, countP_not_mem_cons _ hnew,
      Nat.add_sub_cancel]
  refine ⟨hremaining, (Agenda.pairwise_ready_foldl hascending).eq_of_mem_iff
    ((hplacing.step hi hfree).ascending.sublist List.filter_sublist) fun k => ?_⟩
  rw [Agenda.mem_ready_foldl, List.mem_filter, all_contains_iff,
    hplacing.ascending.nodup.mem_erase_iff]
  constructor
  · rintro (hk | ⟨hk, hzero⟩)
    · obtain ⟨hkw, hkfree⟩ := h.mem_ready_iff.1 (List.mem_cons_of_mem i hk)
      exact ⟨⟨(hleast k hk).ne', hkw⟩, fun j hj => List.mem_cons_of_mem i (hkfree j hj)⟩
    · have harrow := mem_dependents_iff.1 hk
      rw [hremaining k harrow.lt_size, Option.some.injEq, countP_row_eq_zero_iff] at hzero
      refine ⟨⟨?_, (hplacing.mem_waiting k).2 ⟨harrow.lt_size, fun hplaced => ?_⟩⟩, hzero⟩
      · rintro rfl
        exact hnew (hfree k harrow)
      · exact hnew (hplacing.closed k hplaced i harrow)
  · rintro ⟨⟨hne, hkw⟩, hkfree⟩
    by_cases harrow : t.Arrow k i
    · refine .inr ⟨mem_dependents_iff.2 harrow, ?_⟩
      rw [hremaining k harrow.lt_size, Option.some.injEq, countP_row_eq_zero_iff]
      exact hkfree
    · refine .inl ((List.mem_cons.1 (h.mem_ready_iff.2 ⟨hkw, fun j hj => ?_⟩)).resolve_left hne)
      refine (List.mem_cons.1 (hkfree j hj)).resolve_left ?_
      rintro rfl
      exact harrow hj

end step

/-! ## Agreement -/

theorem orderFrom_eq {fuel : Nat} {placed waiting : List Nat} {a : Agenda}
    (hplacing : t.Placing placed waiting) (h : t.Tracks placed waiting a) :
    t.orderFrom fuel a = t.placeFrom fuel placed waiting := by
  induction fuel generalizing placed waiting a with
  | zero => rfl
  | succ fuel ih =>
    obtain ⟨remaining, ready⟩ := a
    unfold orderFrom placeFrom
    rw [h.next?_eq]
    cases ready with
    | nil => rfl
    | cons i ready =>
      obtain ⟨hi, hfree⟩ := h.mem_ready_iff.1 (List.mem_cons_self ..)
      exact congrArg (i :: ·) (ih (hplacing.step hi hfree) (h.step hplacing))

theorem order_eq (t : DependencyTable) :
    t.order = t.placeFrom t.size [] (List.range t.size) :=
  orderFrom_eq t.placing_start t.tracks_agenda

end CloudGraph.DependencyTable

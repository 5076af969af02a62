import CloudGraph.Proofs.Generate.Dependencies.Acyclic
import CloudGraph.Proofs.Generate.Dependencies.Agenda
import Mathlib.Data.Fintype.EquivFin
import Mathlib.Data.List.Lex
import Mathlib.Order.Bounds.Basic
import Mathlib.Order.WellFounded

/-!
# The order of a table

`DependencyTable.order` places one index after another, each time the first whose dependencies
are all placed (`order_eq`).

**Order** (`before_of_arrow`). On every table, each index comes after all that it depends on.

**Completeness** (`order_perm`). Without a cycle, no index is left out: among those that wait,
one depends on none of the others, so the next step never fails. With a cycle, the indices on it
and behind it would be missing without a word.

**Least order** (`isLeast_order`). Of all lists of the indices in which each comes after those it
depends on, the order is the least, read from the left. Where another such list first differs from
it, that list has an index which might have come next as well, and the order took the least of
these.
-/

namespace CloudGraph.DependencyTable

open Relation

variable {t : DependencyTable}

/-! ## What is placed comes after its dependencies -/

/-- Each index of the list depends only on those in `placed` and on earlier ones of the list. -/
def InOrder (t : DependencyTable) : List Nat → List Nat → Prop
  | _, [] => True
  | placed, i :: rest => (∀ j, t.Arrow i j → j ∈ placed) ∧ t.InOrder (i :: placed) rest

theorem of_next? {placed waiting : List Nat} {i : Nat} (h : t.next? placed waiting = some i) :
    i ∈ waiting ∧ ∀ j, t.Arrow i j → j ∈ placed := by
  have hall := List.find?_some h
  exact ⟨List.mem_of_find?_eq_some h, all_contains_iff.1 hall⟩

theorem inOrder_placeFrom (fuel : Nat) (placed waiting : List Nat) :
    t.InOrder placed (t.placeFrom fuel placed waiting) := by
  induction fuel generalizing placed waiting with
  | zero => trivial
  | succ fuel ih =>
    unfold placeFrom
    cases hnext : t.next? placed waiting with
    | none => trivial
    | some i => exact ⟨(of_next? hnext).2, ih (i :: placed) (waiting.erase i)⟩

theorem InOrder.mem_of_arrow {placed before after : List Nat} {i j : Nat}
    (h : t.InOrder placed (before ++ i :: after)) (harrow : t.Arrow i j) :
    j ∈ placed ∨ j ∈ before := by
  induction before generalizing placed with
  | nil => exact .inl (h.1 j harrow)
  | cons k before ih =>
    rcases ih h.2 with hj | hj
    · rcases List.mem_cons.1 hj with rfl | hj
      · exact .inr (List.mem_cons_self ..)
      · exact .inl hj
    · exact .inr (List.mem_cons_of_mem _ hj)

theorem inOrder_of_forall {placed l : List Nat}
    (h : ∀ before i after, l = before ++ i :: after → ∀ j, t.Arrow i j → j ∈ placed ∨ j ∈ before) :
    t.InOrder placed l := by
  induction l generalizing placed with
  | nil => trivial
  | cons i rest ih =>
    refine ⟨fun j harrow => ?_, ih fun before k after hrest j harrow => ?_⟩
    · exact (h [] i rest rfl j harrow).resolve_right List.not_mem_nil
    · rcases h (i :: before) k after (by rw [hrest, List.cons_append]) j harrow with hj | hj
      · exact .inl (List.mem_cons_of_mem i hj)
      · rcases List.mem_cons.1 hj with rfl | hj
        · exact .inl List.mem_cons_self
        · exact .inr hj

theorem inOrder_order (t : DependencyTable) : t.InOrder [] t.order :=
  t.order_eq ▸ inOrder_placeFrom t.size [] (List.range t.size)

/-- What an index depends on stands before it in the order. -/
theorem before_of_arrow {before after : List Nat} {i j : Nat}
    (h : t.order = before ++ i :: after) (harrow : t.Arrow i j) : j ∈ before := by
  have hin := t.inOrder_order
  rw [h] at hin
  exact (hin.mem_of_arrow harrow).resolve_left List.not_mem_nil

/-! ## Nothing is left out -/

/-- Without a cycle, some index of a list depends on no index of the list. -/
theorem Acyclic.exists_free (h : t.Acyclic) {waiting : List Nat} (hne : waiting ≠ []) :
    ∃ i ∈ waiting, ∀ j ∈ waiting, ¬ t.Arrow i j := by
  -- On the finitely many indices of the list, chains of arrows form a well-founded order.
  let Before (a b : { i // i ∈ waiting.toFinset }) : Prop := TransGen t.Arrow b.1 a.1
  have : IsTrans _ Before := ⟨fun _ _ _ hab hbc => hbc.trans hab⟩
  have : Std.Irrefl Before := ⟨fun a => h a.1⟩
  obtain ⟨first, hfirst⟩ := List.exists_mem_of_ne_nil waiting hne
  obtain ⟨i, -, hmin⟩ := (Finite.wellFounded_of_trans_of_irrefl Before).has_min Set.univ
    ⟨⟨first, List.mem_toFinset.2 hfirst⟩, trivial⟩
  refine ⟨i.1, List.mem_toFinset.1 i.2, fun j hj harrow => ?_⟩
  exact hmin ⟨j, List.mem_toFinset.2 hj⟩ trivial (.single harrow)

/-- As long as indices wait, one of them may come next. -/
theorem exists_next? (hclosed : t.Closed) (hacyclic : t.Acyclic) {placed waiting : List Nat}
    (hcover : ∀ i < t.size, i ∈ placed ∨ i ∈ waiting) (hne : waiting ≠ []) :
    ∃ i, t.next? placed waiting = some i := by
  obtain ⟨i, hi, hfree⟩ := hacyclic.exists_free hne
  refine Option.isSome_iff_exists.1 (List.find?_isSome.2 ⟨i, hi, ?_⟩)
  refine all_contains_iff.2 fun j hj => ?_
  exact (hcover j (hclosed i j hj)).resolve_right fun hw => hfree j hw hj

theorem placeFrom_perm (hclosed : t.Closed) (hacyclic : t.Acyclic) {fuel : Nat}
    {placed waiting : List Nat} (hcover : ∀ i < t.size, i ∈ placed ∨ i ∈ waiting)
    (hfuel : waiting.length ≤ fuel) : (t.placeFrom fuel placed waiting).Perm waiting := by
  induction fuel generalizing placed waiting with
  | zero =>
    obtain rfl : waiting = [] := List.eq_nil_of_length_eq_zero (by omega)
    exact .refl _
  | succ fuel ih =>
    by_cases hne : waiting = []
    · subst hne; exact .refl _
    · obtain ⟨i, hnext⟩ := exists_next? hclosed hacyclic hcover hne
      have hi := (of_next? hnext).1
      unfold placeFrom
      rw [hnext]
      have hcover' : ∀ k < t.size, k ∈ i :: placed ∨ k ∈ waiting.erase i := fun k hk => by
        by_cases hki : k = i
        · exact .inl (hki ▸ List.mem_cons_self ..)
        · exact (hcover k hk).imp (List.mem_cons_of_mem _) (List.mem_erase_of_ne hki).2
      have hlength := List.length_erase_of_mem hi
      exact ((ih hcover' (by omega)).cons i).trans (List.perm_cons_erase hi).symm

theorem order_perm (hclosed : t.Closed) (hacyclic : t.Acyclic) :
    t.order.Perm (List.range t.size) := by
  rw [order_eq]
  exact placeFrom_perm hclosed hacyclic (fun _ hi => .inr (List.mem_range.2 hi))
    (List.length_range ..).le

/-! ## The least order -/

/-- Of the indices that may come next, the first in an ascending list is the least. -/
theorem le_of_next? {placed waiting : List Nat} {i j : Nat} (h : t.next? placed waiting = some i)
    (hascending : waiting.Pairwise (· < ·)) (hj : j ∈ waiting)
    (hfree : ∀ k, t.Arrow j k → k ∈ placed) : i ≤ j := by
  obtain ⟨-, before, after, rfl, hbefore⟩ := List.find?_eq_some_iff_append.1 h
  rcases List.mem_append.1 hj with hj | hj
  · exact absurd (all_contains_iff.2 hfree) (by simpa using hbefore j hj)
  · rcases List.mem_cons.1 hj with rfl | hj
    · exact le_rfl
    · exact ((List.pairwise_cons.1 (List.pairwise_append.1 hascending).2.1).1 j hj).le

/-- No other list of what is waiting comes before the one that the search makes. -/
theorem placeFrom_le {fuel : Nat} {placed waiting l : List Nat}
    (hascending : waiting.Pairwise (· < ·)) (hperm : l.Perm waiting) (hin : t.InOrder placed l)
    (hfuel : waiting.length ≤ fuel) : t.placeFrom fuel placed waiting ≤ l := by
  induction fuel generalizing placed waiting l with
  | zero =>
    obtain rfl : waiting = [] := List.eq_nil_of_length_eq_zero (by omega)
    obtain rfl : l = [] := hperm.eq_nil
    exact le_rfl
  | succ fuel ih =>
    cases l with
    | nil =>
      obtain rfl : waiting = [] := hperm.nil_eq.symm
      exact le_rfl
    | cons j rest =>
      have hj : j ∈ waiting := hperm.mem_iff.1 List.mem_cons_self
      obtain ⟨i, hnext⟩ : ∃ i, t.next? placed waiting = some i :=
        Option.isSome_iff_exists.1 (List.find?_isSome.2 ⟨j, hj, all_contains_iff.2 hin.1⟩)
      unfold placeFrom
      rw [hnext]
      rcases (le_of_next? hnext hascending hj hin.1).lt_or_eq with hlt | rfl
      · exact le_of_lt (List.Lex.rel hlt)
      · have hlength := List.length_erase_of_mem hj
        exact List.cons_le_cons i (ih (hascending.sublist List.erase_sublist)
          (List.cons_perm_iff_perm_erase.1 hperm).2 hin.2 (by omega))

/-- The order is the least of those in which each index comes after all that it depends on. -/
theorem isLeast_order (hclosed : t.Closed) (hacyclic : t.Acyclic) :
    IsLeast {l | l.Perm (List.range t.size) ∧ t.InOrder [] l} t.order := by
  refine ⟨⟨order_perm hclosed hacyclic, t.inOrder_order⟩, ?_⟩
  rintro l ⟨hperm, hin⟩
  rw [order_eq]
  exact placeFrom_le List.pairwise_lt_range hperm hin (List.length_range ..).le

/-- What is waiting in an order that is right already stays in it. -/
theorem placeFrom_of_inOrder {fuel : Nat} {placed waiting : List Nat}
    (hin : t.InOrder placed waiting) (hfuel : waiting.length ≤ fuel) :
    t.placeFrom fuel placed waiting = waiting := by
  induction fuel generalizing placed waiting with
  | zero => exact (List.eq_nil_of_length_eq_zero (by omega)).symm
  | succ fuel ih =>
    cases waiting with
    | nil => rfl
    | cons i rest =>
      have hnext : t.next? placed (i :: rest) = some i :=
        List.find?_cons_of_pos (all_contains_iff.2 hin.1)
      rw [List.length_cons] at hfuel
      unfold placeFrom
      rw [hnext]
      dsimp only
      rw [List.erase_cons_head, ih hin.2 (by omega)]

/-- Where indices depend on lesser ones only, they stay as they are. -/
theorem order_eq_range (h : ∀ i j, t.Arrow i j → j < i) : t.order = List.range t.size := by
  have hin : t.InOrder [] (List.range t.size) := by
    refine inOrder_of_forall fun before i after hrange j harrow => .inr ?_
    have hascending : (before ++ i :: after).Pairwise (· < ·) := hrange ▸ List.pairwise_lt_range
    have hj : j ∈ before ++ i :: after := by
      rw [← hrange, List.mem_range]
      exact (h i j harrow).trans harrow.lt_size
    rcases List.mem_append.1 hj with hj | hj
    · exact hj
    · have hlt := h i j harrow
      rcases List.mem_cons.1 hj with rfl | hj
      · omega
      · have hafter := (List.pairwise_cons.1 (List.pairwise_append.1 hascending).2.1).1 j hj
        omega
  rw [order_eq]
  exact placeFrom_of_inOrder hin (List.length_range ..).le

end CloudGraph.DependencyTable

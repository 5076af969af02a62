import CloudGraph.Generate.Plan
import CloudGraph.Proofs.Generate.Dependencies.Acyclic

/-!
# Wiring the edges of a graph

`Plan.wire` takes the edges one by one and decides each in view of those it took before. The
invariant `Wired` says what holds of the table and the dropped edges after any number of them.

- **Sound**: each arrow comes from an edge that was taken.
- **Closing**: an edge whose arrow is missing joins an index to one it depends on already, so
  its arrow would close a cycle.
- **Dropped**: the dropped edges are exactly those whose arrow is missing.

The last two speak of the *final* table, not of the one that an edge was decided in. An edge
once refused stays refused: its source goes on leading to its target (`Leads.push`), and
an arrow is added only where its source does not lead to its target (`Wired.lost_push`).
-/

namespace CloudGraph.Plan

open DependencyTable

variable {ids : List String}

theorem getElem?_of_indexOf? {id : String} {i : Nat} (h : indexOf? ids id = some i) :
    ids[i]? = some id := by
  obtain ⟨entry, hfound, rfl⟩ := Option.map_eq_some_iff.1 h
  have hid := List.find?_some hfound
  rw [← eq_of_beq hid]
  exact List.mem_zipIdx_iff_getElem?.1 (List.mem_reverse.1 (List.mem_of_find?_eq_some hfound))

theorem isSome_indexOf? {id : String} : (indexOf? ids id).isSome ↔ id ∈ ids := by
  unfold indexOf?
  rw [Option.isSome_map, List.find?_isSome]
  constructor
  · rintro ⟨entry, hentry, hid⟩
    rw [← eq_of_beq hid]
    exact List.mem_of_getElem? (List.mem_zipIdx_iff_getElem?.1 (List.mem_reverse.1 hentry))
  · intro hid
    obtain ⟨i, hi⟩ := List.mem_iff_getElem?.1 hid
    have hentry : (id, i) ∈ ids.zipIdx := List.mem_zipIdx_iff_getElem?.2 hi
    exact ⟨(id, i), List.mem_reverse.2 hentry, beq_self_eq_true id⟩

/-- An edge from the id at one index to the id at another. -/
def Joins (ids : List String) (e : Edge) (source target : Nat) : Prop :=
  indexOf? ids e.source = some source ∧ indexOf? ids e.target = some target

theorem Joins.unique {e : Edge} {i j k l : Nat} (h : Joins ids e i j) (h' : Joins ids e k l) :
    i = k ∧ j = l :=
  ⟨Option.some.inj (h.1.symm.trans h'.1), Option.some.inj (h.2.symm.trans h'.2)⟩

theorem Joins.source_eq {e : Edge} {i j : Nat} (h : Joins ids e i j) :
    ids[i]? = some e.source :=
  getElem?_of_indexOf? h.1

theorem Joins.target_eq {e : Edge} {i j : Nat} (h : Joins ids e i j) :
    ids[j]? = some e.target :=
  getElem?_of_indexOf? h.2

theorem Joins.source_lt {e : Edge} {i j : Nat} (h : Joins ids e i j) : i < ids.length :=
  (List.getElem?_eq_some_iff.1 h.source_eq).1

theorem Joins.target_lt {e : Edge} {i j : Nat} (h : Joins ids e i j) : j < ids.length :=
  (List.getElem?_eq_some_iff.1 h.target_eq).1

/-- The arrow of an edge between known ids is missing from the table. -/
def lost (ids : List String) (t : DependencyTable) (e : Edge) : Bool :=
  match indexOf? ids e.source, indexOf? ids e.target with
  | some source, some target => !(t.row target).contains source
  | _, _ => false

theorem lost_of_joins {t : DependencyTable} {e : Edge} {i j : Nat} (h : Joins ids e i j) :
    lost ids t e = true ↔ ¬ t.Arrow j i := by
  unfold lost Arrow
  rw [h.1, h.2]
  simp

theorem lost_eq_false {t : DependencyTable} {e : Edge} {i j : Nat} (h : Joins ids e i j)
    (harrow : t.Arrow j i) : lost ids t e = false :=
  Bool.eq_false_iff.2 fun hlost => (lost_of_joins h).1 hlost harrow

theorem lost_iff {t : DependencyTable} {e : Edge} :
    lost ids t e = true ↔ ∃ i j, Joins ids e i j ∧ ¬ t.Arrow j i := by
  refine ⟨fun h => ?_, fun ⟨i, j, hjoin, hmissing⟩ => (lost_of_joins hjoin).2 hmissing⟩
  cases hsource : indexOf? ids e.source with
  | none => simp [lost, hsource] at h
  | some i =>
    cases htarget : indexOf? ids e.target with
    | none => simp [lost, hsource, htarget] at h
    | some j => exact ⟨i, j, ⟨hsource, htarget⟩, (lost_of_joins ⟨hsource, htarget⟩).1 h⟩

/-- What holds after some edges were taken. -/
structure Wired (ids : List String) (edges : List Edge) (wired : DependencyTable × List Edge) :
    Prop where
  size : wired.1.size = ids.length
  acyclic : wired.1.Acyclic
  sound : ∀ i j, wired.1.Arrow i j → ∃ e ∈ edges, Joins ids e j i
  closing : ∀ e ∈ edges, ∀ i j, Joins ids e i j → wired.1.Arrow j i ∨ wired.1.Leads i j
  dropped : wired.2 = edges.filter (lost ids wired.1)

theorem wired_empty (ids : List String) : Wired ids [] (.empty ids.length, []) where
  size := size_empty _
  acyclic := acyclic_empty _
  sound i j h := absurd h (not_arrow_empty _ i j)
  closing _ h := absurd h List.not_mem_nil
  dropped := rfl

/-! ## One edge -/

theorem wireEdge_of_not_joins {e : Edge} (h : ¬ ∃ source target, Joins ids e source target)
    (wired : DependencyTable × List Edge) : wireEdge ids wired e = wired := by
  unfold wireEdge
  split
  · next source target hsource htarget => exact absurd ⟨source, target, hsource, htarget⟩ h
  · rfl

/-- An edge that an id is missing for, or whose arrow is there already, or which closes a
cycle, leaves the table as it is. -/
theorem Wired.keep {edges : List Edge} {t : DependencyTable} {dropped : List Edge} {e : Edge}
    (h : Wired ids edges (t, dropped))
    (hclosing : ∀ i j, Joins ids e i j → t.Arrow j i ∨ t.Leads i j) :
    Wired ids (edges ++ [e]) (t, dropped ++ [e].filter (lost ids t)) where
  size := h.size
  acyclic := h.acyclic
  sound i j harrow := by
    obtain ⟨e', he', hjoin⟩ := h.sound i j harrow
    exact ⟨e', List.mem_append_left _ he', hjoin⟩
  closing e' he' := by
    rcases List.mem_append.1 he' with he' | he'
    · exact h.closing e' he'
    · rw [List.mem_singleton.1 he']
      exact hclosing
  dropped := by
    rw [List.filter_append, ← h.dropped]

/-- A new arrow changes nothing about which earlier edges are lost. -/
theorem Wired.lost_push {edges : List Edge} {t : DependencyTable} {dropped : List Edge}
    {source target : Nat} (h : Wired ids edges (t, dropped)) (htarget : target < t.size)
    (hlead : ¬ t.Leads source target) {e : Edge} (he : e ∈ edges) :
    lost ids (t.push source target) e = lost ids t e := by
  refine Bool.eq_iff_iff.2 (lost_iff.trans (.trans ?_ lost_iff.symm))
  refine exists_congr fun i => exists_congr fun j => and_congr_right fun hjoin => ?_
  rw [arrow_push_iff htarget]
  refine ⟨fun hnew hold => hnew (.inl hold), fun hold hnew => ?_⟩
  rcases hnew with hnew | ⟨rfl, rfl⟩
  · exact hold hnew
  -- The new arrow would be that of `e`, but then the search had found the way from its source.
  · exact hlead ((h.closing e he _ _ hjoin).resolve_left hold)

theorem Wired.grow {edges : List Edge} {t : DependencyTable} {dropped : List Edge} {e : Edge}
    {source target : Nat} (h : Wired ids edges (t, dropped)) (hjoin : Joins ids e source target)
    (hlead : ¬ t.Leads source target) :
    Wired ids (edges ++ [e]) (t.push source target, dropped) := by
  have htarget : target < t.size := h.size ▸ hjoin.target_lt
  have hnew : (t.push source target).Arrow target source :=
    (arrow_push_iff htarget).2 (.inr ⟨rfl, rfl⟩)
  refine ⟨size_push.trans h.size, h.acyclic.push htarget hlead, ?_, ?_, ?_⟩
  · intro i j harrow
    rcases (arrow_push_iff htarget).1 harrow with hold | ⟨rfl, rfl⟩
    · obtain ⟨e', he', hjoin'⟩ := h.sound i j hold
      exact ⟨e', List.mem_append_left _ he', hjoin'⟩
    · exact ⟨e, List.mem_append_right _ (List.mem_singleton_self e), hjoin⟩
  · intro e' he' i j hjoin'
    rcases List.mem_append.1 he' with he' | he'
    · rcases h.closing e' he' i j hjoin' with hold | hlead'
      · exact .inl ((arrow_push_iff htarget).2 (.inl hold))
      · exact .inr (hlead'.push htarget)
    · rw [List.mem_singleton.1 he'] at hjoin'
      obtain ⟨rfl, rfl⟩ := hjoin.unique hjoin'
      exact .inl hnew
  · rw [List.filter_append, List.filter_singleton, lost_eq_false hjoin hnew, cond_false,
      List.append_nil]
    exact h.dropped.trans (List.filter_congr fun e' he' => (h.lost_push htarget hlead he').symm)

theorem Wired.wireEdge {edges : List Edge} {wired : DependencyTable × List Edge}
    (h : Wired ids edges wired) (e : Edge) : Wired ids (edges ++ [e]) (wireEdge ids wired e) := by
  obtain ⟨t, dropped⟩ := wired
  by_cases hinner : ∃ source target, Joins ids e source target
  · obtain ⟨source, target, hjoin⟩ := hinner
    unfold Plan.wireEdge
    rw [hjoin.1, hjoin.2]
    rcases t.add_cases source target with ⟨harrow, hadd⟩ | ⟨harrow, hlead, hadd⟩ |
      ⟨harrow, hlead, hadd⟩
    · have hkeep := h.keep (e := e) fun i j hjoin' => by
        obtain ⟨rfl, rfl⟩ := hjoin.unique hjoin'
        exact .inl harrow
      simpa [hadd, lost_eq_false hjoin harrow] using hkeep
    · have hkeep := h.keep (e := e) fun i j hjoin' => by
        obtain ⟨rfl, rfl⟩ := hjoin.unique hjoin'
        exact .inr hlead
      simpa [hadd, (lost_of_joins hjoin).2 harrow] using hkeep
    · simpa [hadd] using h.grow hjoin hlead
  · have hkeep := h.keep (e := e) fun i j hjoin => absurd ⟨i, j, hjoin⟩ hinner
    have hlost : lost ids t e = false := Bool.eq_false_iff.2 fun hlost => by
      obtain ⟨i, j, hjoin, -⟩ := lost_iff.1 hlost
      exact hinner ⟨i, j, hjoin⟩
    simpa [wireEdge_of_not_joins hinner, hlost] using hkeep

/-! ## All edges -/

theorem Wired.foldl {taken : List Edge} {wired : DependencyTable × List Edge}
    (h : Wired ids taken wired) (edges : List Edge) :
    Wired ids (taken ++ edges) (edges.foldl (Plan.wireEdge ids) wired) := by
  induction edges generalizing taken wired with
  | nil => simpa using h
  | cons e edges ih => simpa using ih (h.wireEdge e)

theorem wired_wire (ids : List String) (edges : List Edge) :
    Wired ids edges (wire ids edges) :=
  (wired_empty ids).foldl edges

/-- Arrows of the table end at its indices. -/
theorem Wired.closed {edges : List Edge} {wired : DependencyTable × List Edge}
    (h : Wired ids edges wired) : wired.1.Closed := fun i j harrow => by
  obtain ⟨e, -, hjoin⟩ := h.sound i j harrow
  exact h.size ▸ hjoin.source_lt

end CloudGraph.Plan

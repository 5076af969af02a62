import CloudGraph.Proofs.Generate.Dependencies.Search

/-!
# Tables without cycles

`DependencyTable.add` searches before it adds an arrow, so a table that grows from the empty one
has no cycle.

**Outcomes** (`add_cases`). An arrow is present already, or the source leads back to the target
and the arrow is refused, or neither holds and the table grows by that arrow and no other.

**Invariant** (`Acyclic.push`). A cycle in the grown table uses the new arrow `target → source`.
Cut open there, it is a chain of old arrows from `source` to `target`, which the search would
have found.
-/

namespace CloudGraph.DependencyTable

open Relation

/-- No index depends on itself, through any number of arrows. -/
def Acyclic (t : DependencyTable) : Prop := ∀ i, ¬ TransGen t.Arrow i i

/-- Arrows end at indices of the table. -/
def Closed (t : DependencyTable) : Prop := ∀ i j, t.Arrow i j → j < t.size

/-! ## The empty table -/

@[simp] theorem size_empty (n : Nat) : (empty n).size = n := by
  simp [size, empty]

theorem not_arrow_empty (n i j : Nat) : ¬ (empty n).Arrow i j := by
  unfold Arrow row empty
  rw [List.getElem?_replicate]
  split_ifs <;> simp

theorem acyclic_empty (n : Nat) : (empty n).Acyclic := by
  intro i h
  obtain ⟨j, hij, -⟩ := TransGen.head'_iff.1 h
  exact not_arrow_empty n i j hij

/-! ## One more arrow -/

/-- The table in which `target` depends on `source` as well. -/
def push (t : DependencyTable) (source target : Nat) : DependencyTable :=
  ⟨t.rows.modify target (· ++ [source])⟩

section push

variable {t : DependencyTable} {source target : Nat}

@[simp] theorem size_push : (t.push source target).size = t.size := by
  simp [size, push]

theorem row_push_self (h : target < t.size) :
    (t.push source target).row target = t.row target ++ [source] := by
  unfold size at h
  simp [row, push, h]

theorem row_push_of_ne {i : Nat} (h : i ≠ target) : (t.push source target).row i = t.row i := by
  simp [row, push, List.getElem?_modify_ne _ _ (Ne.symm h)]

theorem arrow_push_iff (h : target < t.size) {i j : Nat} :
    (t.push source target).Arrow i j ↔ t.Arrow i j ∨ (i = target ∧ j = source) := by
  unfold Arrow
  by_cases hi : i = target
  · subst hi
    simp [row_push_self h]
  · simp [row_push_of_ne hi, hi]

theorem Leads.push (h : target < t.size) {i j : Nat} (hlead : t.Leads i j) :
    (t.push source target).Leads i j :=
  ReflTransGen.mono (fun _ _ harrow => (arrow_push_iff h).2 (.inl harrow)) _ _ hlead

/-- A chain in the grown table is one of old arrows, or it runs through the new one. -/
theorem transGen_push (h : target < t.size) {i j : Nat}
    (hchain : TransGen (t.push source target).Arrow i j) :
    TransGen t.Arrow i j ∨ (t.Leads i target ∧ t.Leads source j) := by
  induction hchain with
  | single harrow =>
    rcases (arrow_push_iff h).1 harrow with hold | ⟨rfl, rfl⟩
    · exact .inl (.single hold)
    · exact .inr ⟨.refl, .refl⟩
  | tail _ harrow ih =>
    rcases (arrow_push_iff h).1 harrow with hold | ⟨rfl, rfl⟩
    · rcases ih with ih | ⟨hto, hfrom⟩
      · exact .inl (ih.tail hold)
      · exact .inr ⟨hto, hfrom.tail hold⟩
    · rcases ih with ih | ⟨hto, -⟩
      · exact .inr ⟨ih.to_reflTransGen, .refl⟩
      · exact .inr ⟨hto, .refl⟩

theorem Acyclic.push (hacyclic : t.Acyclic) (h : target < t.size)
    (hlead : ¬ t.Leads source target) : (t.push source target).Acyclic := by
  intro i hcycle
  rcases transGen_push h hcycle with hold | ⟨hto, hfrom⟩
  · exact hacyclic i hold
  · exact hlead (hfrom.trans hto)

end push

/-! ## Outcomes -/

theorem add_cases (t : DependencyTable) (source target : Nat) :
    (t.Arrow target source ∧ t.add source target = .present) ∨
    (¬ t.Arrow target source ∧ t.Leads source target ∧ t.add source target = .cyclic) ∨
    (¬ t.Arrow target source ∧ ¬ t.Leads source target ∧
      t.add source target = .added (t.push source target)) := by
  unfold add
  split_ifs with hpresent hcyclic
  · exact .inl ⟨List.contains_iff_mem.1 hpresent, rfl⟩
  · exact .inr (.inl ⟨fun h => hpresent (List.contains_iff_mem.2 h),
      dependsOn_iff_leads.1 hcyclic, rfl⟩)
  · exact .inr (.inr ⟨fun h => hpresent (List.contains_iff_mem.2 h),
      fun h => hcyclic (dependsOn_iff_leads.2 h), rfl⟩)

end CloudGraph.DependencyTable

/-!
# Totals

The total of what a function gives for the members of a list.
-/

namespace CloudGraph

variable {α : Type}

def total (f : α → Nat) : List α → Nat
  | [] => 0
  | x :: xs => f x + total f xs

@[simp]
theorem total_nil (f : α → Nat) : total f [] = 0 := rfl

@[simp]
theorem total_cons (f : α → Nat) (x : α) (xs : List α) :
    total f (x :: xs) = f x + total f xs := rfl

@[simp]
theorem total_append (f : α → Nat) (xs ys : List α) :
    total f (xs ++ ys) = total f xs + total f ys := by
  induction xs with
  | nil => simp
  | cons x xs ih => simp [ih, Nat.add_assoc]

theorem total_map {β : Type} (f : β → Nat) (g : α → β) (l : List α) :
    total f (l.map g) = total (fun a => f (g a)) l := by
  induction l with
  | nil => rfl
  | cons a l ih => rw [List.map_cons, total_cons, total_cons, ih]

theorem total_perm (f : α → Nat) {l m : List α} (h : l.Perm m) :
    total f l = total f m := by
  induction h with
  | nil => rfl
  | cons a _ ih => rw [total_cons, total_cons, ih]
  | swap a b l => simp only [total_cons]; omega
  | trans _ _ ih₁ ih₂ => exact ih₁.trans ih₂

theorem total_congr {f f' : α → Nat} {l : List α} (h : ∀ a ∈ l, f a = f' a) :
    total f l = total f' l := by
  induction l with
  | nil => rfl
  | cons a l ih =>
    obtain ⟨ha, hl⟩ := List.forall_mem_cons.1 h
    rw [total_cons, total_cons, ha, ih hl]

end CloudGraph

import CloudGraph.Total

/-!
# Dependencies between indices

A table holds, for each index, the indices it depends on, in the order they were added.

* `dependsOn` searches whether one index leads to another.
* `DependencyTable.add` adds an arrow unless it would close a cycle, and says which it did.
* `order` lists the indices with each after those it depends on. Of the indices that may come
  next it takes the least.
-/

namespace CloudGraph

/-- At position `i`, the indices that `i` depends on. -/
structure DependencyTable where
  rows : List (List Nat)
deriving DecidableEq, Repr

namespace DependencyTable

/-- A table of `n` indices that depend on nothing. -/
def empty (n : Nat) : DependencyTable :=
  ⟨List.replicate n []⟩

def size (t : DependencyTable) : Nat :=
  t.rows.length

/-- What an index depends on; nothing for an index that the table lacks. -/
def row (t : DependencyTable) (i : Nat) : List Nat :=
  t.rows[i]?.getD []

/-- The number of arrows. -/
def arrowCount (t : DependencyTable) : Nat :=
  total List.length t.rows

/-! ## Search -/

/-- Depth-first search for `goal`: `visited` holds the indices already expanded and `stack`
those to look at. -/
def search (t : DependencyTable) (goal : Nat) : Nat → List Nat → List Nat → Bool
  | 0, _, _ => false
  | _, _, [] => false
  | fuel + 1, visited, current :: stack =>
    if current = goal then true
    else if visited.contains current then search t goal fuel visited stack
    else search t goal fuel (current :: visited) (t.row current ++ stack)

/-- Whether `start` is `goal` or depends on it through any number of arrows. Each arrow enters
the stack at most once, because each index is expanded at most once. -/
def dependsOn (t : DependencyTable) (start goal : Nat) : Bool :=
  t.search goal (t.arrowCount + 1) [] [start]

/-! ## Adding arrows -/

/-- What becomes of an arrow. -/
inductive Addition where
  /-- The table has it already. -/
  | present
  /-- It would close a cycle. -/
  | cyclic
  | added (table : DependencyTable)

/-- Let `target` depend on `source`. -/
def add (t : DependencyTable) (source target : Nat) : Addition :=
  if (t.row target).contains source then .present
  else if t.dependsOn source target then .cyclic
  else .added ⟨t.rows.modify target (· ++ [source])⟩

/-! ## Order -/

/-- The indices that depend on an index, ascending, each as often as it names it. -/
def dependents (t : DependencyTable) (i : Nat) : List Nat :=
  (List.range t.size).flatMap fun k => List.replicate ((t.row k).count i) k

/-- What is left to place. -/
structure Agenda where
  /-- For each index, how many of its dependencies are not placed. -/
  remaining : List Nat
  /-- The indices that may come next, ascending. -/
  ready : List Nat

namespace Agenda

/-- Put an index into an ascending list, unless it is there. -/
def insert (i : Nat) : List Nat → List Nat
  | [] => [i]
  | j :: rest =>
    if i < j then i :: j :: rest
    else if i = j then j :: rest
    else j :: insert i rest

/-- An index has one dependency less to wait for. -/
def release (a : Agenda) (i : Nat) : Agenda :=
  let remaining := a.remaining.modify i (· - 1)
  { remaining
    ready := if remaining[i]? = some 0 then insert i a.ready else a.ready }

end Agenda

/-- Nothing is placed, and what depends on nothing is ready. -/
def agenda (t : DependencyTable) : Agenda where
  remaining := t.rows.map List.length
  ready := (List.range t.size).filter fun i => (t.row i).isEmpty

/-- Place the least index that is ready, as long as there is one, and release those that depend
on it. -/
def orderFrom (t : DependencyTable) : Nat → Agenda → List Nat
  | 0, _ => []
  | fuel + 1, a =>
    match a.ready with
    | i :: ready => i :: orderFrom t fuel ((t.dependents i).foldl Agenda.release { a with ready })
    | [] => []

/-- The indices, each after those it depends on; the least comes first where there is a
choice. -/
def order (t : DependencyTable) : List Nat :=
  t.orderFrom t.size t.agenda

end DependencyTable

end CloudGraph

/-!
# Maps sorted by key

A map from texts is a list of entries with strictly increasing keys (code point order). The
list operations `insertEntry` and `lookup` need no order to satisfy the two laws of a map,
`lookup_insertEntry_self` and `lookup_insertEntry_ne`; `SortedMap` adds the order, so that two
maps with the same entries are equal.
-/

namespace CloudGraph

variable {α β : Type}

/-- Put an entry at its place; an entry with the same key is replaced. -/
def insertEntry (key : String) (value : α) : List (String × α) → List (String × α)
  | [] => [(key, value)]
  | (k, v) :: rest =>
    if key < k then (key, value) :: (k, v) :: rest
    else if key = k then (key, value) :: rest
    else (k, v) :: insertEntry key value rest

/-- The value under a key. -/
def lookup (key : String) : List (String × α) → Option α
  | [] => none
  | (k, v) :: rest => if k = key then some v else lookup key rest

/-- Whether the keys increase strictly. -/
def KeysIncrease (entries : List (String × α)) : Prop :=
  entries.Pairwise fun a b => a.1 < b.1

instance (entries : List (String × α)) : Decidable (KeysIncrease entries) :=
  inferInstanceAs (Decidable (entries.Pairwise fun a b => a.1 < b.1))

theorem lookup_insertEntry_self (key : String) (value : α) (entries : List (String × α)) :
    lookup key (insertEntry key value entries) = some value := by
  induction entries with
  | nil => simp [insertEntry, lookup]
  | cons e rest ih =>
    obtain ⟨k, v⟩ := e
    unfold insertEntry
    split
    · simp [lookup]
    · split
      · simp [lookup]
      · next h => simpa [lookup, Ne.symm h] using ih

theorem lookup_insertEntry_ne {key other : String} (h : other ≠ key) (value : α)
    (entries : List (String × α)) :
    lookup other (insertEntry key value entries) = lookup other entries := by
  induction entries with
  | nil => simp [insertEntry, lookup, Ne.symm h]
  | cons e rest ih =>
    obtain ⟨k, v⟩ := e
    unfold insertEntry
    split
    · simp [lookup, Ne.symm h]
    · split
      · next hk => subst hk; simp [lookup, Ne.symm h]
      · by_cases hk : k = other <;> simp [lookup, hk, ih]

theorem key_of_mem_insertEntry {key : String} {value : α} {e : String × α}
    {entries : List (String × α)} (h : e ∈ insertEntry key value entries) :
    e.1 = key ∨ e ∈ entries := by
  induction entries with
  | nil => simp [insertEntry] at h; simp [h]
  | cons f rest ih =>
    obtain ⟨k, v⟩ := f
    unfold insertEntry at h
    split at h
    · rcases List.mem_cons.1 h with rfl | h
      · exact .inl rfl
      · exact .inr h
    · split at h
      · rcases List.mem_cons.1 h with rfl | h
        · exact .inl rfl
        · exact .inr (List.mem_cons_of_mem _ h)
      · rcases List.mem_cons.1 h with rfl | h
        · exact .inr (List.mem_cons_self ..)
        · exact (ih h).imp_right (List.mem_cons_of_mem _)

theorem KeysIncrease.insertEntry {entries : List (String × α)} (h : KeysIncrease entries)
    (key : String) (value : α) : KeysIncrease (insertEntry key value entries) := by
  induction entries with
  | nil => exact List.pairwise_singleton _ _
  | cons e rest ih =>
    obtain ⟨k, v⟩ := e
    obtain ⟨hk, hrest⟩ := List.pairwise_cons.1 h
    unfold CloudGraph.insertEntry
    split
    · next hlt =>
      refine List.pairwise_cons.2 ⟨fun e he => ?_, h⟩
      rcases List.mem_cons.1 he with rfl | he
      · exact hlt
      · exact String.lt_trans hlt (hk e he)
    · split
      · next heq => subst heq; exact List.pairwise_cons.2 ⟨hk, hrest⟩
      · next hnlt hne =>
        refine List.pairwise_cons.2 ⟨fun e he => ?_, ih hrest⟩
        rcases key_of_mem_insertEntry he with h | h
        · have hle : k ≤ key := String.not_lt.1 hnlt
          have : ¬ key ≤ k := fun hge => hne (String.le_antisymm hge hle)
          exact h ▸ String.not_le.1 this
        · exact hk e h

/-- A map from texts with its entries in the order of the keys. -/
structure SortedMap (α : Type) where
  entries : List (String × α)
  increasing : KeysIncrease entries

namespace SortedMap

def empty : SortedMap α := ⟨[], List.Pairwise.nil⟩

instance : Inhabited (SortedMap α) := ⟨empty⟩

instance [BEq α] : BEq (SortedMap α) := ⟨fun m n => m.entries == n.entries⟩

def insert (m : SortedMap α) (key : String) (value : α) : SortedMap α :=
  ⟨insertEntry key value m.entries, m.increasing.insertEntry key value⟩

def get? (m : SortedMap α) (key : String) : Option α :=
  lookup key m.entries

/-- The map of a list of entries; of two entries with one key the later counts. -/
def ofList (entries : List (String × α)) : SortedMap α :=
  entries.foldl (fun m e => m.insert e.1 e.2) empty

def keys (m : SortedMap α) : List String :=
  m.entries.map (·.1)

def size (m : SortedMap α) : Nat :=
  m.entries.length

def isEmpty (m : SortedMap α) : Bool :=
  m.entries.isEmpty

@[simp] theorem get?_empty (key : String) : (empty : SortedMap α).get? key = none := rfl

@[simp] theorem get?_insert_self (m : SortedMap α) (key : String) (value : α) :
    (m.insert key value).get? key = some value :=
  lookup_insertEntry_self ..

theorem get?_insert_ne (m : SortedMap α) {key other : String} (h : other ≠ key) (value : α) :
    (m.insert key value).get? other = m.get? other :=
  lookup_insertEntry_ne h ..

@[ext] theorem ext {m n : SortedMap α} (h : m.entries = n.entries) : m = n := by
  cases m; cases n; cases h; rfl

end SortedMap

end CloudGraph

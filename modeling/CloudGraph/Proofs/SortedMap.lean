import CloudGraph.Json.Basic
import Mathlib.Data.List.Nodup
import Mathlib.Data.List.Perm.Basic
import Mathlib.Data.String.Basic

/-!
# Entries with distinct keys

An entry that is put into a list replaces one with the same key. So a list of entries that are put
one after another may come out shorter than it went in, and what is left depends on their order.
With distinct keys none of this happens: what comes out is a permutation of what went in
(`insertAll_perm`). As its keys increase, two such lists have the same keys as soon as the same
keys went in (`KeysIncrease.keys_eq`), and the first entry has the least key, the last the greatest
(`KeysIncrease.head?_eq_some_iff`, `KeysIncrease.getLast?_eq_some_iff`).

Where an object names a member twice, the later one counts (`Json.member?_object`). A map that is
built from a list holds what the list becomes (`SortedMap.entries_ofList`).
-/

namespace CloudGraph

variable {α β : Type}

theorem KeysIncrease.nodup {entries : List (String × α)} (h : KeysIncrease entries) :
    (entries.map (·.1)).Nodup :=
  (List.pairwise_map.2 h).imp fun hlt heq => absurd (heq ▸ hlt) (String.lt_irrefl _)

/-- Lists with increasing keys have the same keys if one list of keys permutes the other. -/
theorem KeysIncrease.keys_eq {as : List (String × α)} {bs : List (String × β)}
    (ha : KeysIncrease as) (hb : KeysIncrease bs) (h : (as.map (·.1)).Perm (bs.map (·.1))) :
    as.map (·.1) = bs.map (·.1) := by
  refine h.eq_of_pairwise (fun a b _ _ hab hba => ?_) (List.pairwise_map.2 ha)
    (List.pairwise_map.2 hb)
  exact absurd (String.lt_trans hab hba) (String.lt_irrefl a)

theorem lookup_eq_some_iff {entries : List (String × α)} (h : (entries.map (·.1)).Nodup)
    {key : String} {value : α} : lookup key entries = some value ↔ (key, value) ∈ entries := by
  induction entries with
  | nil => simp [lookup]
  | cons e rest ih =>
    obtain ⟨k, v⟩ := e
    obtain ⟨hnew, hrest⟩ := List.nodup_cons.1 h
    by_cases hk : k = key
    · subst hk
      have hnone : (k, value) ∉ rest := fun hmem => hnew (List.mem_map.2 ⟨_, hmem, rfl⟩)
      simp [lookup, hnone, eq_comm]
    · simp [lookup, hk, Ne.symm hk, ih hrest]

theorem insertEntry_perm {key : String} (value : α) {entries : List (String × α)}
    (h : key ∉ entries.map (·.1)) :
    (insertEntry key value entries).Perm ((key, value) :: entries) := by
  induction entries with
  | nil => exact .refl _
  | cons e rest ih =>
    obtain ⟨k, v⟩ := e
    have hne : key ≠ k := fun heq => h (heq ▸ List.mem_cons_self)
    have hrest : key ∉ rest.map (·.1) := fun hmem => h (List.mem_cons_of_mem _ hmem)
    unfold insertEntry
    split_ifs
    · exact .refl _
    · exact ((ih hrest).cons (k, v)).trans (.swap ..)

theorem eq_or_mem_of_mem_insertEntry {key : String} {value : α} {e : String × α}
    {entries : List (String × α)} (h : e ∈ insertEntry key value entries) :
    e = (key, value) ∨ e ∈ entries := by
  induction entries with
  | nil => exact .inl (List.mem_singleton.1 h)
  | cons f rest ih =>
    obtain ⟨k, v⟩ := f
    unfold insertEntry at h
    split_ifs at h
    · exact List.mem_cons.1 h
    · exact (List.mem_cons.1 h).imp_right (List.mem_cons_of_mem _)
    · rcases List.mem_cons.1 h with rfl | h
      · exact .inr List.mem_cons_self
      · exact (ih h).imp_right (List.mem_cons_of_mem _)

/-- Put entries into a list, one after another. -/
def insertAll (entries into : List (String × α)) : List (String × α) :=
  entries.foldl (fun es e => insertEntry e.1 e.2 es) into

theorem lookup_append (key : String) (as bs : List (String × α)) :
    lookup key (as ++ bs) = (lookup key as).or (lookup key bs) := by
  induction as with
  | nil => rfl
  | cons e rest ih =>
    obtain ⟨k, v⟩ := e
    by_cases hk : k = key
    · simp [lookup, hk]
    · simp [lookup, hk, ih]

theorem lookup_eq_none {key : String} {entries : List (String × α)}
    (h : key ∉ entries.map (·.1)) : lookup key entries = none := by
  induction entries with
  | nil => rfl
  | cons e rest ih =>
    obtain ⟨hne, hrest⟩ := List.ne_and_not_mem_of_not_mem_cons h
    rw [lookup, if_neg (Ne.symm hne), ih hrest]

theorem lookup_eq_head? (key : String) (entries : List (String × α)) :
    lookup key entries = ((entries.filter fun e => e.1 = key).map (·.2)).head? := by
  induction entries with
  | nil => rfl
  | cons e rest ih =>
    by_cases hkey : e.1 = key
    · simp [lookup, hkey]
    · simp [lookup, hkey, ih]

/-- With distinct keys it does not matter from which end an entry is looked for. -/
theorem lookup_reverse {entries : List (String × α)} (h : (entries.map (·.1)).Nodup)
    (key : String) : lookup key entries.reverse = lookup key entries := by
  refine Option.ext fun value => ?_
  rw [lookup_eq_some_iff h, lookup_eq_some_iff (by rwa [List.map_reverse, List.nodup_reverse]),
    List.mem_reverse]

/-- Of entries with one key, the last that was put in is found. -/
theorem lookup_insertAll (key : String) (entries into : List (String × α)) :
    lookup key (insertAll entries into) = (lookup key entries.reverse).or (lookup key into) := by
  induction entries generalizing into with
  | nil => rfl
  | cons e rest ih =>
    obtain ⟨k, v⟩ := e
    show lookup key (insertAll rest (insertEntry k v into)) = _
    rw [ih, List.reverse_cons, lookup_append, Option.or_assoc]
    by_cases hk : k = key
    · subst hk
      simp [lookup, lookup_insertEntry_self]
    · simp [lookup, hk, lookup_insertEntry_ne (Ne.symm hk)]

theorem KeysIncrease.insertAll {into : List (String × α)} (h : KeysIncrease into)
    (entries : List (String × α)) : KeysIncrease (insertAll entries into) := by
  induction entries generalizing into with
  | nil => exact h
  | cons e rest ih => exact ih (h.insertEntry e.1 e.2)

theorem mem_keys_insertEntry {key k : String} {value : α} {entries : List (String × α)} :
    k ∈ (insertEntry key value entries).map (·.1) ↔ k = key ∨ k ∈ entries.map (·.1) := by
  induction entries with
  | nil => simp [insertEntry]
  | cons e rest ih =>
    unfold insertEntry
    split_ifs with hlt heq
    · simp
    · simp [heq]
    · simp [ih, or_left_comm]

theorem mem_keys_insertAll {k : String} {entries into : List (String × α)} :
    k ∈ (insertAll entries into).map (·.1) ↔
      k ∈ entries.map (·.1) ∨ k ∈ into.map (·.1) := by
  induction entries generalizing into with
  | nil => simp [insertAll]
  | cons e rest ih =>
    show k ∈ (insertAll rest (insertEntry e.1 e.2 into)).map (·.1) ↔ _
    rw [ih, mem_keys_insertEntry, List.map_cons, List.mem_cons, or_left_comm, or_assoc]

theorem insertAll_perm {entries into : List (String × α)}
    (h : ((entries ++ into).map (·.1)).Nodup) :
    (insertAll entries into).Perm (entries ++ into) := by
  induction entries generalizing into with
  | nil => exact .refl _
  | cons e rest ih =>
    obtain ⟨hnew, hrest⟩ := List.nodup_cons.1 h
    have hinsert : (insertEntry e.1 e.2 into).Perm (e :: into) :=
      insertEntry_perm e.2 fun hmem => hnew (by simp [hmem])
    have hmove : (rest ++ insertEntry e.1 e.2 into).Perm (e :: (rest ++ into)) :=
      (hinsert.append_left rest).trans List.perm_middle
    have hnodup : ((rest ++ insertEntry e.1 e.2 into).map (·.1)).Nodup :=
      (hmove.map _).nodup_iff.2 h
    exact (ih hnodup).trans hmove

/-- What distinct entries become, in the order of their keys. -/
theorem insertAll_nil_perm {entries : List (String × α)} (h : (entries.map (·.1)).Nodup) :
    (insertAll entries []).Perm entries := by
  rw [← List.append_nil entries] at h
  exact (insertAll_perm h).trans (.of_eq (List.append_nil entries))

theorem keysIncrease_insertAll_nil (entries : List (String × α)) :
    KeysIncrease (insertAll entries []) :=
  KeysIncrease.insertAll List.Pairwise.nil entries

/-- An entry with the greatest key goes to the end. -/
theorem insertEntry_of_forall_lt {key : String} (value : α) {entries : List (String × α)}
    (h : ∀ e ∈ entries, e.1 < key) : insertEntry key value entries = entries ++ [(key, value)] := by
  induction entries with
  | nil => rfl
  | cons e rest ih =>
    obtain ⟨k, v⟩ := e
    obtain ⟨hk, hrest⟩ := List.forall_mem_cons.1 h
    have hlt : ¬ key < k := fun hlt => String.lt_irrefl _ (String.lt_trans hlt hk)
    have hne : key ≠ k := fun heq => String.lt_irrefl k (heq ▸ hk)
    rw [insertEntry, if_neg hlt, if_neg hne, ih hrest]
    rfl

theorem KeysIncrease.lt_of_append {into rest : List (String × α)} {e : String × α}
    (h : KeysIncrease (into ++ e :: rest)) : ∀ d ∈ into, d.1 < e.1 := fun _ hd =>
  (List.pairwise_append.1 h).2.2 _ hd _ List.mem_cons_self

/-- Entries that are put in by increasing keys stay as they are. -/
theorem insertAll_of_keysIncrease {entries into : List (String × α)}
    (h : KeysIncrease (into ++ entries)) : insertAll entries into = into ++ entries := by
  induction entries generalizing into with
  | nil => exact (List.append_nil into).symm
  | cons e rest ih =>
    have hlast : insertEntry e.1 e.2 into = into ++ [e] := insertEntry_of_forall_lt _ h.lt_of_append
    rw [List.append_cons] at h ⊢
    show insertAll rest (insertEntry e.1 e.2 into) = _
    rw [hlast, ih h]

/-! ## First and last -/

/-- The first of some entries is the one with the least key. -/
theorem KeysIncrease.head?_eq_some_iff {entries : List (String × α)} (h : KeysIncrease entries)
    {e : String × α} : entries.head? = some e ↔ e ∈ entries ∧ ∀ d ∈ entries, e.1 ≤ d.1 := by
  cases entries with
  | nil => simp
  | cons d rest =>
    have hd : ∀ d' ∈ rest, d.1 < d'.1 := (List.pairwise_cons.1 h).1
    rw [List.head?_cons, Option.some_inj]
    constructor
    · rintro rfl
      refine ⟨List.mem_cons_self, fun d' hd' => ?_⟩
      rcases List.mem_cons.1 hd' with rfl | hd'
      · exact le_rfl
      · exact (hd d' hd').le
    · rintro ⟨he, hleast⟩
      rcases List.mem_cons.1 he with rfl | he
      · rfl
      · exact absurd (hd e he) (hleast d List.mem_cons_self).not_gt

/-- The last of some entries is the one with the greatest key. -/
theorem KeysIncrease.getLast?_eq_some_iff {entries : List (String × α)} (h : KeysIncrease entries)
    {e : String × α} : entries.getLast? = some e ↔ e ∈ entries ∧ ∀ d ∈ entries, d.1 ≤ e.1 := by
  rcases List.eq_nil_or_concat' entries with rfl | ⟨rest, d, rfl⟩
  · simp
  · have hd : ∀ d' ∈ rest, d'.1 < d.1 := h.lt_of_append
    rw [List.getLast?_concat, Option.some_inj]
    constructor
    · rintro rfl
      refine ⟨List.mem_concat_self, fun d' hd' => ?_⟩
      rcases List.mem_append.1 hd' with hd' | hd'
      · exact (hd d' hd').le
      · exact (congrArg Prod.fst (List.mem_singleton.1 hd')).le
    · rintro ⟨he, hgreatest⟩
      rcases List.mem_append.1 he with he | he
      · exact absurd (hd e he) (hgreatest d List.mem_concat_self).not_gt
      · exact (List.mem_singleton.1 he).symm

/-! ## Objects and maps -/

/-- The member under a key is the last one named. -/
theorem Json.member?_object (members : List (String × Json)) (key : String) :
    (Json.object members).member? key = lookup key members.reverse := by
  show lookup key (CloudGraph.insertAll members []) = _
  rw [lookup_insertAll]
  exact Option.or_none

theorem SortedMap.entries_foldl_insert (entries : List (String × α)) (m : SortedMap α) :
    (entries.foldl (fun m e => m.insert e.1 e.2) m).entries = insertAll entries m.entries := by
  induction entries generalizing m with
  | nil => rfl
  | cons e rest ih => exact ih (m.insert e.1 e.2)

theorem SortedMap.entries_ofList (entries : List (String × α)) :
    (SortedMap.ofList entries).entries = insertAll entries [] :=
  entries_foldl_insert entries .empty

/-- The entries that satisfy `p`. -/
def SortedMap.filter (p : String → α → Bool) (m : SortedMap α) : SortedMap α :=
  ⟨m.entries.filter fun e => p e.1 e.2, m.increasing.filter _⟩

theorem SortedMap.get?_filter (p : String → α → Bool) (m : SortedMap α) (key : String) :
    (m.filter p).get? key = (m.get? key).filter (p key) := by
  obtain ⟨entries, h⟩ := m
  show lookup key (entries.filter fun e => p e.1 e.2) = (lookup key entries).filter (p key)
  replace h := h.nodup
  induction entries with
  | nil => rfl
  | cons e rest ih =>
    obtain ⟨k, v⟩ := e
    obtain ⟨hnew, hrest⟩ := List.nodup_cons.1 h
    by_cases hk : k = key
    · subst hk
      have hnone : lookup k (rest.filter fun e => p e.1 e.2) = none := by
        rw [ih hrest, lookup_eq_none hnew, Option.filter_none]
      by_cases hp : p k v = true <;> simp [lookup, hp, hnone, Option.filter]
    · by_cases hp : p k v = true <;> simp [lookup, hp, hk, ih hrest]

theorem insertEntry_map (g : String → α → β) (key : String) (value : α)
    (entries : List (String × α)) :
    (insertEntry key value entries).map (fun e => (e.1, g e.1 e.2)) =
      insertEntry key (g key value) (entries.map fun e => (e.1, g e.1 e.2)) := by
  induction entries with
  | nil => rfl
  | cons e rest ih =>
    rw [List.map_cons, insertEntry, insertEntry]
    split_ifs with hlt heq
    · rfl
    · rfl
    · exact congrArg _ ih

theorem KeysIncrease.map {entries : List (String × α)} (h : KeysIncrease entries)
    (g : String → α → β) : KeysIncrease (entries.map fun e => (e.1, g e.1 e.2)) :=
  List.pairwise_map.2 (List.Pairwise.imp id h)

/-- The entries with other values, which may depend on the keys. -/
def SortedMap.mapEntries (g : String → α → β) (m : SortedMap α) : SortedMap β :=
  ⟨m.entries.map fun e => (e.1, g e.1 e.2), m.increasing.map g⟩

theorem SortedMap.mapEntries_insert (g : String → α → β) (m : SortedMap α) (key : String)
    (value : α) : (m.insert key value).mapEntries g = (m.mapEntries g).insert key (g key value) :=
  SortedMap.ext (insertEntry_map g key value m.entries)

theorem SortedMap.get?_mapEntries (g : String → α → β) (m : SortedMap α) (key : String) :
    (m.mapEntries g).get? key = (m.get? key).map (g key) := by
  obtain ⟨entries, h⟩ := m
  show lookup key (entries.map fun e => (e.1, g e.1 e.2)) = (lookup key entries).map (g key)
  clear h
  induction entries with
  | nil => rfl
  | cons e rest ih =>
    by_cases hk : e.1 = key
    · simp [lookup, hk]
    · simp [lookup, hk, ih]

theorem SortedMap.isSome_get?_iff {m : SortedMap α} {key : String} :
    (m.get? key).isSome = true ↔ key ∈ m.keys := by
  have hfound : ∀ value, m.get? key = some value ↔ (key, value) ∈ m.entries := fun value =>
    lookup_eq_some_iff m.increasing.nodup
  rw [Option.isSome_iff_exists, exists_congr hfound]
  simp [SortedMap.keys]

theorem SortedMap.ofList_entries (m : SortedMap α) : SortedMap.ofList m.entries = m := by
  refine SortedMap.ext ?_
  rw [SortedMap.entries_ofList]
  exact insertAll_of_keysIncrease m.increasing

end CloudGraph

import CloudGraph.Proofs.Json.Spelling
import CloudGraph.Proofs.SortedMap

/-!
# Values that are read back

An object that is read has each key once and in order: the readers make canonical values only
(`Raw.canonical_of_toJson?`). A canonical value comes back from its tree, as long as the tree may
nest as deep as the value does (`Raw.toJson?_toRaw`). With `Raw.ofChars?_of_spells` it comes back
from each of its texts (`Json.ofText?_of_spells`).
-/

namespace CloudGraph

/-! ## Trees of collections -/

namespace Json

theorem itemsToRaw_eq_map (items : List Json) : itemsToRaw items = items.map toRaw := by
  induction items with
  | nil => rfl
  | cons v rest ih => rw [itemsToRaw, ih, List.map_cons]

theorem membersToRaw_eq_map (members : List (String × Json)) :
    membersToRaw members = members.map fun m => (some m.1, m.2.toRaw) := by
  induction members with
  | nil => rfl
  | cons m rest ih =>
    obtain ⟨name, v⟩ := m
    rw [membersToRaw, ih, List.map_cons]

end Json

namespace Raw

open Json

/-! ## Values that are read are canonical -/

theorem canonicalMembers_insertEntry {key : String} {v : Json} (hv : v.Canonical)
    {members : List (String × Json)} (h : CanonicalMembers members) :
    CanonicalMembers (insertEntry key v members) := by
  induction members with
  | nil => exact ⟨hv, trivial⟩
  | cons m rest ih =>
    unfold insertEntry
    split_ifs
    · exact ⟨hv, h⟩
    · exact ⟨hv, h.2⟩
    · exact ⟨h.1, ih h.2⟩

mutual

theorem canonical_of_toJson? {limit : Nat} : (r : Raw) → {v : Json} → r.toJson? limit = some v →
    v.Canonical
  | .null, _, h | .bool _, _, h => by
    cases h
    trivial
  | .number n, _, h => by
    obtain ⟨n, -, rfl⟩ := Option.map_eq_some_iff.mp h
    trivial
  | .text s, _, h => by
    obtain ⟨s, -, rfl⟩ := Option.map_eq_some_iff.mp h
    trivial
  | .array items, _, h => by
    rcases limit with _ | limit
    · cases h
    obtain ⟨vs, hvs, rfl⟩ := Option.map_eq_some_iff.mp h
    exact canonicalItems_of_itemsToJson? items hvs
  | .object members, _, h => by
    rcases limit with _ | limit
    · cases h
    obtain ⟨ms, hms, rfl⟩ := Option.map_eq_some_iff.mp h
    exact canonical_of_membersToJson? members List.Pairwise.nil trivial hms

theorem canonicalItems_of_itemsToJson? {limit : Nat} : (items : List Raw) → {vs : List Json} →
    itemsToJson? limit items = some vs → CanonicalItems vs
  | [], _, h => by
    cases h
    trivial
  | r :: rest, _, h => by
    obtain ⟨v, hv, hnext⟩ := Option.bind_eq_some_iff.mp h
    obtain ⟨vs, hvs, hresult⟩ := Option.bind_eq_some_iff.mp hnext
    cases hresult
    exact ⟨canonical_of_toJson? r hv, canonicalItems_of_itemsToJson? rest hvs⟩

theorem canonical_of_membersToJson? {limit : Nat} : (members : List (Option String × Raw)) →
    {into ms : List (String × Json)} → KeysIncrease into → CanonicalMembers into →
    membersToJson? limit members into = some ms → KeysIncrease ms ∧ CanonicalMembers ms
  | [], _, _, hkeys, hinto, h => by
    cases h
    exact ⟨hkeys, hinto⟩
  | (key, r) :: rest, _, _, hkeys, hinto, h => by
    obtain ⟨k, -, hnext⟩ := Option.bind_eq_some_iff.mp h
    obtain ⟨v, hv, hrest⟩ := Option.bind_eq_some_iff.mp hnext
    exact canonical_of_membersToJson? rest (hkeys.insertEntry k v)
      (canonicalMembers_insertEntry (canonical_of_toJson? r hv) hinto) hrest

end

/-! ## Canonical values come back -/

mutual

theorem toJson?_toRaw : (v : Json) → v.Canonical → {limit : Nat} → v.depth ≤ limit →
    v.toRaw.toJson? limit = some v
  | .null, _, _, _ | .bool _, _, _, _ | .num _, _, _, _ | .str _, _, _, _ => rfl
  | .arr items, h, limit, hdepth => by
    rcases limit with _ | limit
    · cases hdepth
    show (itemsToJson? limit (itemsToRaw items)).map Json.arr = _
    rw [itemsToJson?_itemsToRaw items h (Nat.le_of_succ_le_succ hdepth)]
    rfl
  | .obj members, ⟨hkeys, h⟩, limit, hdepth => by
    rcases limit with _ | limit
    · cases hdepth
    show (membersToJson? limit (membersToRaw members) []).map Json.obj = _
    rw [membersToJson?_membersToRaw members [] hkeys h (Nat.le_of_succ_le_succ hdepth)]
    rfl

theorem itemsToJson?_itemsToRaw : (items : List Json) → CanonicalItems items → {limit : Nat} →
    itemsDepth items ≤ limit → itemsToJson? limit (itemsToRaw items) = some items
  | [], _, _, _ => rfl
  | v :: rest, ⟨hv, hrest⟩, limit, hdepth => by
    obtain ⟨hdv, hdrest⟩ := Nat.max_le.mp hdepth
    rw [itemsToRaw, itemsToJson?, toJson?_toRaw v hv hdv, itemsToJson?_itemsToRaw rest hrest hdrest]
    rfl

theorem membersToJson?_membersToRaw : (members into : List (String × Json)) →
    KeysIncrease (into ++ members) → CanonicalMembers members → {limit : Nat} →
    membersDepth members ≤ limit →
    membersToJson? limit (membersToRaw members) into = some (into ++ members)
  | [], into, _, _, _, _ => congrArg some (List.append_nil into).symm
  | (k, v) :: rest, into, hkeys, ⟨hv, hrest⟩, limit, hdepth => by
    obtain ⟨hdv, hdrest⟩ := Nat.max_le.mp hdepth
    have hlast : insertEntry k v into = into ++ [(k, v)] :=
      insertEntry_of_forall_lt v hkeys.lt_of_append
    rw [List.append_cons] at hkeys ⊢
    rw [membersToRaw, membersToJson?, toJson?_toRaw v hv hdv]
    show membersToJson? limit (membersToRaw rest) (insertEntry k v into) = _
    rw [hlast, membersToJson?_membersToRaw rest _ hkeys hrest hdrest]

end

end Raw

namespace Json

theorem ofText?_of_spells {v : Json} (hcanonical : v.Canonical) (hdepth : v.depth ≤ maxDepth)
    {s : String} (h : Spells (.value v) s.toList) : ofText? s = some v := by
  unfold ofText? Raw.ofText?
  rw [Raw.ofChars?_of_spells h]
  exact Raw.toJson?_toRaw v hcanonical hdepth

theorem ofText?_compact {v : Json} (hcanonical : v.Canonical) (hintegral : v.Integral)
    (hdepth : v.depth ≤ maxDepth) : ofText? v.compact = some v := by
  refine ofText?_of_spells hcanonical hdepth ?_
  rw [compact, String.toList_ofList]
  exact spells_compactChars v hintegral

end Json

end CloudGraph

import CloudGraph.Advisory.Suggestion
import CloudGraph.Proofs.Json.RoundTrip
import Mathlib.Data.List.Nodup

/-!
# The ids of advice

**Theorem (`parseFindings?_nodup_ids_iff`).** The findings of an array have different ids just if
the names that the items give themselves differ (`NamesDiffer`) and none of these names is the
number of an item without one (`NumbersFree`).

* *Names.* An item names itself if it has an id that is not blank. The name is what stands behind
  the marks that the trimmed id starts with, and the finding's id is the name behind one mark.
* *Numbers.* The id of any other finding is its place behind a mark. Places are counted over what
  is kept, so two numbers never agree. But a name may be a number as well (`number_given_as_name`).
-/

namespace CloudGraph.Advisory

namespace Suggestion

variable {s t : Suggestion} {name : List Char}

/-! ## Marks -/

theorem dropMarks_of_not_prefix {cs : List Char} (h : ¬ idMark <+: cs) : dropMarks cs = cs := by
  unfold dropMarks
  split
  · exact absurd (List.prefix_append idMark _) h
  · rfl

theorem dropMarks_marks_append (marks : Nat) (cs : List Char) :
    dropMarks ((List.replicate marks idMark).flatten ++ cs) = dropMarks cs := by
  induction marks with
  | zero => rfl
  | succ marks ih =>
    rw [List.replicate_succ, List.flatten_cons, List.append_assoc]
    exact ih

theorem exists_marks (cs : List Char) :
    ∃ marks, cs = (List.replicate marks idMark).flatten ++ dropMarks cs := by
  fun_induction dropMarks cs with
  | case1 rest ih =>
    obtain ⟨marks, h⟩ := ih
    refine ⟨marks + 1, ?_⟩
    rw [List.replicate_succ, List.flatten_cons, List.append_assoc, ← h]
    rfl
  | case2 cs => exact ⟨0, rfl⟩

theorem not_prefix_dropMarks (cs : List Char) : ¬ idMark <+: dropMarks cs := by
  fun_induction dropMarks cs with
  | case1 rest ih => exact ih
  | case2 cs h =>
    rintro ⟨rest, rfl⟩
    exact h rest rfl

/-! ## Names and numbers -/

/-- A suggestion names itself: it has an id that is not blank, and the name is what stands behind
the marks that the trimmed id starts with. -/
def Named (s : Suggestion) (name : List Char) : Prop :=
  ∃ text marks, s.id = some text ∧ Text.trimChars text.toList ≠ [] ∧
    Text.trimChars text.toList = (List.replicate marks idMark).flatten ++ name ∧
    ¬ idMark <+: name

/-- A suggestion has no id, or a blank one. -/
def Unnamed (s : Suggestion) : Prop :=
  ∀ text, s.id = some text → Text.trimChars text.toList = []

theorem named_or_unnamed (s : Suggestion) : (∃ name, s.Named name) ∨ s.Unnamed := by
  cases hid : s.id with
  | none => exact .inr fun text h => by simp [hid] at h
  | some text =>
    by_cases hblank : Text.trimChars text.toList = []
    · refine .inr fun other h => ?_
      cases hid.symm.trans h
      exact hblank
    · obtain ⟨marks, hmarks⟩ := exists_marks (Text.trimChars text.toList)
      exact .inl ⟨_, text, marks, hid, hblank, hmarks, not_prefix_dropMarks _⟩

theorem Named.not_unnamed (h : s.Named name) : ¬ s.Unnamed := by
  obtain ⟨text, -, hid, hne, -⟩ := h
  exact fun hun => hne (hun text hid)

theorem findingId_of_named (h : s.Named name) (i : Nat) :
    s.findingId i = String.ofList (idMark ++ name) := by
  obtain ⟨text, marks, hid, hne, hmarks, hname⟩ := h
  have hdrop : dropMarks (Text.trimChars text.toList) = name := by
    rw [hmarks, dropMarks_marks_append, dropMarks_of_not_prefix hname]
  simp [findingId, hid, hne, hdrop]

theorem findingId_of_unnamed (h : s.Unnamed) (i : Nat) :
    s.findingId i = String.ofList (idMark ++ Decimal.digitText (i + 1)) := by
  have hblank : Text.trimChars (s.id.getD "").toList = [] := by
    cases hid : s.id with
    | none => rfl
    | some text => exact h text hid
  simp [findingId, hblank]

theorem ofList_mark_inj {as bs : List Char} :
    String.ofList (idMark ++ as) = String.ofList (idMark ++ bs) ↔ as = bs := by
  rw [String.ofList_inj, List.append_cancel_left_eq]

end Suggestion

open Suggestion

variable {kept : List Suggestion}

/-- No two suggestions give themselves one name. -/
def NamesDiffer (kept : List Suggestion) : Prop :=
  kept.Pairwise fun s t => ∀ name, s.Named name → ¬ t.Named name

/-- The number of a suggestion without a name is no suggestion's name. -/
def NumbersFree (kept : List Suggestion) : Prop :=
  ∀ i s, kept[i]? = some s → s.Unnamed → ∀ t ∈ kept, ¬ t.Named (Decimal.digitText (i + 1))

theorem NamesDiffer.index_eq (h : NamesDiffer kept) {i j : Nat} {s t : Suggestion}
    (hi : kept[i]? = some s) (hj : kept[j]? = some t) {name : List Char} (hs : s.Named name)
    (ht : t.Named name) : i = j := by
  obtain ⟨hilt, rfl⟩ := List.getElem?_eq_some_iff.mp hi
  obtain ⟨hjlt, rfl⟩ := List.getElem?_eq_some_iff.mp hj
  have hpairs := List.pairwise_iff_getElem.mp h
  rcases Nat.lt_trichotomy i j with hlt | heq | hgt
  · exact absurd ht (hpairs i j hilt hjlt hlt name hs)
  · exact heq
  · exact absurd hs (hpairs j i hjlt hilt hgt name ht)

/-- Two suggestions with one id: either two names agree, or a name is a number. -/
theorem index_eq_of_findingId_eq (hnames : NamesDiffer kept) (hnumbers : NumbersFree kept)
    {i j : Nat} {s t : Suggestion} (hi : kept[i]? = some s) (hj : kept[j]? = some t)
    (h : s.findingId i = t.findingId j) : i = j := by
  rcases s.named_or_unnamed with ⟨name, hs⟩ | hs <;>
    rcases t.named_or_unnamed with ⟨other, ht⟩ | ht
  · rw [findingId_of_named hs, findingId_of_named ht, ofList_mark_inj] at h
    exact hnames.index_eq hi hj hs (h ▸ ht)
  · rw [findingId_of_named hs, findingId_of_unnamed ht, ofList_mark_inj] at h
    exact absurd (h ▸ hs) (hnumbers j t hj ht s (List.mem_of_getElem? hi))
  · rw [findingId_of_unnamed hs, findingId_of_named ht, ofList_mark_inj] at h
    exact absurd (h ▸ ht) (hnumbers i s hi hs t (List.mem_of_getElem? hj))
  · rw [findingId_of_unnamed hs, findingId_of_unnamed ht, ofList_mark_inj] at h
    exact Nat.succ.inj (Decimal.digitText_injective h)

theorem nodup_mapIdx_iff {α β : Type} {f : Nat → α → β} {l : List α} :
    (l.mapIdx f).Nodup ↔
      ∀ i j a b, l[i]? = some a → l[j]? = some b → f i a = f j b → i = j := by
  constructor
  · intro h i j a b hi hj heq
    obtain ⟨hilt, rfl⟩ := List.getElem?_eq_some_iff.mp hi
    obtain ⟨hjlt, rfl⟩ := List.getElem?_eq_some_iff.mp hj
    have hi' : i < (l.mapIdx f).length := by simpa using hilt
    have hj' : j < (l.mapIdx f).length := by simpa using hjlt
    have heq' : (l.mapIdx f)[i] = (l.mapIdx f)[j] := by simpa using heq
    exact h.getElem_inj_iff.mp heq'
  · intro h
    rw [List.Nodup, List.pairwise_iff_getElem]
    intro i j hi hj hlt heq
    rw [List.length_mapIdx] at hi hj
    simp only [List.getElem_mapIdx] at heq
    exact absurd (h i j _ _ (List.getElem?_eq_getElem hi) (List.getElem?_eq_getElem hj) heq)
      (Nat.ne_of_lt hlt)

theorem nodup_findingIds_iff :
    (kept.mapIdx fun i s => s.findingId i).Nodup ↔ NamesDiffer kept ∧ NumbersFree kept := by
  rw [nodup_mapIdx_iff]
  constructor
  · intro h
    constructor
    · refine List.pairwise_iff_getElem.mpr fun i j hi hj hlt name hs ht => ?_
      refine absurd (h i j _ _ (List.getElem?_eq_getElem hi) (List.getElem?_eq_getElem hj) ?_)
        (Nat.ne_of_lt hlt)
      rw [findingId_of_named hs, findingId_of_named ht]
    · intro i s hi hs t ht hname
      obtain ⟨j, hj⟩ := List.getElem?_of_mem ht
      have heq : s.findingId i = t.findingId j := by
        rw [findingId_of_unnamed hs, findingId_of_named hname]
      have hst : s = t := by
        rw [← h i j s t hi hj heq] at hj
        exact Option.some.inj (hi.symm.trans hj)
      exact hname.not_unnamed (hst ▸ hs)
  · rintro ⟨hnames, hnumbers⟩ i j s t hi hj heq
    exact index_eq_of_findingId_eq hnames hnumbers hi hj heq

/-! ## Arrays -/

/-- The suggestions that the items of an array make, those without a title left out. -/
def keptOf (items : List Json) : List Suggestion :=
  (items.filterMap Suggestion.ofJson?).filter (·.isTitled)

theorem map_id_toFinding (g : Graph) :
    (kept.mapIdx fun i s => s.toFinding g i).map (·.id) =
      kept.mapIdx fun i s => s.findingId i := by
  refine List.ext_getElem? fun i => ?_
  rw [List.getElem?_map, List.getElem?_mapIdx, List.getElem?_mapIdx, Option.map_map]
  rfl

/-- **When the ids of advice differ.** An array always gives findings, one for each kept item. Their
ids differ pairwise just if the names that kept items give themselves do, and none of these names
is the number of a kept item without a name. -/
theorem parseFindings?_nodup_ids_iff {array : String} {items : List Json}
    (h : Json.ofText? array = some (.arr items)) (g : Graph) :
    ∃ fs, parseFindings? array g = some fs ∧ fs.length = (keptOf items).length ∧
      ((fs.map (·.id)).Nodup ↔ NamesDiffer (keptOf items) ∧ NumbersFree (keptOf items)) := by
  refine ⟨(keptOf items).mapIdx fun i s => s.toFinding g i, ?_, List.length_mapIdx, ?_⟩
  · rw [parseFindings?, h]
    rfl
  · rw [map_id_toFinding]
    exact nodup_findingIds_iff

theorem parseFindings?_nodup_ids_marked :
    ∃ (text : String) (items : List Json) (fs : List Finding),
      text = "[\x7b\"id\":\" ai-ai-7 \",\"title\":\"Open\"\x7d,\x7b\"title\":\"Weak\"\x7d," ++
        "\x7b\"id\":\"x\",\"title\":\"Old\"\x7d]" ∧
      Json.ofText? text = some (.arr items) ∧ parseFindings? text {} = some fs ∧
      fs.map (·.id) = ["ai-7", "ai-2", "ai-x"] ∧
      NamesDiffer (keptOf items) ∧ NumbersFree (keptOf items) := by
  let items : List Json := [.obj [("id", .str " ai-ai-7 "), ("title", .str "Open")],
    .obj [("title", .str "Weak")], .obj [("id", .str "x"), ("title", .str "Old")]]
  have hread : Json.ofText? (Json.arr items).compact = some (.arr items) :=
    Json.ofText?_compact (by decide +kernel) (by decide +kernel) (by decide +kernel)
  obtain ⟨fs, hfs, -, hiff⟩ := parseFindings?_nodup_ids_iff hread {}
  have hids : fs.map (·.id) = ["ai-7", "ai-2", "ai-x"] := by
    have hrun : (parseFindings? (Json.arr items).compact {}).map (·.map (·.id)) =
        some ["ai-7", "ai-2", "ai-x"] := by
      rw [parseFindings?, hread]
      decide +kernel
    simpa [hfs] using hrun
  have hnodup : (fs.map (·.id)).Nodup := by
    rw [hids]
    decide
  exact ⟨_, items, fs, by decide +kernel, hread, hfs, hids, hiff.mp hnodup⟩

/-- A name that is the number of an item without a name. -/
theorem number_given_as_name :
    ∃ items, Json.ofText? ("[\x7b\"id\":\"ai-2\",\"title\":\"Open port\"\x7d," ++
        "\x7b\"title\":\"No backup\"\x7d]") = some (.arr items) ∧
      NamesDiffer (keptOf items) ∧
      (parseFindings? ("[\x7b\"id\":\"ai-2\",\"title\":\"Open port\"\x7d," ++
        "\x7b\"title\":\"No backup\"\x7d]") {}).map (·.map (·.id)) = some ["ai-2", "ai-2"] := by
  let items : List Json := [.obj [("id", .str "ai-2"), ("title", .str "Open port")],
    .obj [("title", .str "No backup")]]
  have hread : Json.ofText? (Json.arr items).compact = some (.arr items) :=
    Json.ofText?_compact (by decide +kernel) (by decide +kernel) (by decide +kernel)
  have htext : (Json.arr items).compact = "[\x7b\"id\":\"ai-2\",\"title\":\"Open port\"\x7d," ++
      "\x7b\"title\":\"No backup\"\x7d]" := by
    decide +kernel
  have hkept : keptOf items =
      [{ id := some "ai-2", title := some "Open port" }, { title := some "No backup" }] := by
    decide +kernel
  have hnames : NamesDiffer (keptOf items) := by
    rw [hkept]
    refine List.pairwise_pair.mpr fun name _ hname => hname.not_unnamed ?_
    intro text h
    cases h
  rw [htext] at hread
  exact ⟨items, hread, hnames, by decide +kernel⟩

end CloudGraph.Advisory

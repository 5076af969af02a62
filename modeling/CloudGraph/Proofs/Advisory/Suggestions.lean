import CloudGraph.Advisory.Suggestion
import CloudGraph.Proofs.Json.RoundTrip
import Mathlib.Data.List.Forall2
import Mathlib.Data.List.ReduceOption

/-!
# Which items become findings

**Theorem (`parseFindings?_exact`).** Each item of an array is taken by itself and in its place. An
object with a title that is not blank makes one finding, if its other fields fit. Every other
object makes none, and neither does a scalar (`Becomes`).

What fits is said field by field (`Words`). A field may go by several names but may be given under
one of them only, and what is given has the type of the field. Unknown members do not count.

* *Known members* (`Document.gather_isSome_iff`). The reader gathers the members that it knows
  unless two of them have one name.
* *Values* (`Document.lookup_gather`). Under each name it then finds what the object gives there.
* *Leaves* (`nullable_text?_iff`, `optional_texts?_iff`). What it reads there is what is said.
-/

namespace CloudGraph

/-! ## Known members -/

namespace Document

variable {τ : Type} {names : List String} {found fields members : List (String × τ)}

/-- The members that are fields. -/
def known (names : List String) (members : List (String × τ)) : List (String × τ) :=
  members.filter fun m => names.contains m.1

/-- What is given under a name. -/
def values (name : String) (members : List (String × τ)) : List τ :=
  (members.filter fun m => m.1 = name).map (·.2)

theorem gather_eq_some_iff :
    gather names found (members.map fun m => (some m.1, m.2)) = some fields ↔
      ((known names members).map (·.1)).Nodup ∧
      (∀ m ∈ known names members, lookup m.1 found = none) ∧
      fields = (known names members).reverse ++ found := by
  induction members generalizing found with
  | nil => simp [gather, known, eq_comm]
  | cons m rest ih =>
    obtain ⟨name, value⟩ := m
    rw [List.map_cons, gather]
    by_cases hname : names.contains name = true
    · have hknown : known names ((name, value) :: rest) = (name, value) :: known names rest :=
        List.filter_cons_of_pos hname
      rw [if_pos hname, hknown, List.map_cons, List.nodup_cons, List.forall_mem_cons]
      cases hfound : lookup name found with
      | some d => simp
      | none =>
        -- the member joins what is found, so no later one may have its name
        have hnew : (∀ m ∈ known names rest, lookup m.1 ((name, value) :: found) = none) ↔
            name ∉ (known names rest).map (·.1) ∧ ∀ m ∈ known names rest, lookup m.1 found = none := by
          rw [List.mem_map]
          constructor
          · intro h
            refine ⟨?_, fun m hm => ?_⟩
            · rintro ⟨m, hm, rfl⟩
              simpa [lookup] using h m hm
            · have := h m hm
              unfold lookup at this
              split_ifs at this
              exact this
          · rintro ⟨hne, h⟩ m hm
            rw [lookup, if_neg fun heq => hne ⟨m, hm, heq.symm⟩]
            exact h m hm
        rw [if_neg (by simp), ih, hnew]
        simp only [List.reverse_cons, List.append_assoc, List.singleton_append]
        tauto
    · have hknown : known names ((name, value) :: rest) = known names rest :=
        List.filter_cons_of_neg hname
      rw [if_neg hname, hknown, ih]

theorem values_known {name : String} (h : name ∈ names) :
    values name (known names members) = values name members := by
  unfold values known
  rw [List.filter_filter]
  refine congrArg _ (List.filter_congr fun m _ => ?_)
  by_cases hm : m.1 = name
  · simp [hm, h]
  · simp [hm]

theorem nodup_known_iff : ((known names members).map (·.1)).Nodup ↔
    ∀ name ∈ names, (values name members).length ≤ 1 := by
  have hcount : ∀ name, ((known names members).map (·.1)).count name =
      (values name (known names members)).length := by
    intro name
    rw [values, List.length_map, List.count, List.countP_map, List.countP_eq_length_filter]
    rfl
  rw [List.nodup_iff_count_le_one]
  constructor
  · intro h name hname
    rw [← values_known hname, ← hcount]
    exact h name
  · intro h name
    by_cases hname : name ∈ names
    · rw [hcount, values_known hname]
      exact h name hname
    · have hnone : name ∉ (known names members).map (·.1) := by
        rw [List.mem_map]
        rintro ⟨m, hm, rfl⟩
        exact hname (List.contains_iff_mem.mp (List.mem_filter.mp hm).2)
      rw [List.count_eq_zero_of_not_mem hnone]
      exact Nat.zero_le 1

theorem gather_isSome_iff :
    (gather names [] (members.map fun m => (some m.1, m.2))).isSome = true ↔
      ∀ name ∈ names, (values name members).length ≤ 1 := by
  rw [Option.isSome_iff_exists, ← nodup_known_iff]
  constructor
  · rintro ⟨fields, h⟩
    exact (gather_eq_some_iff.mp h).1
  · intro h
    exact ⟨_, gather_eq_some_iff.mpr ⟨h, fun _ _ => rfl, rfl⟩⟩

theorem lookup_gather (h : gather names [] (members.map fun m => (some m.1, m.2)) = some fields)
    {name : String} (hname : name ∈ names) : lookup name fields = (values name members).head? := by
  obtain ⟨hnodup, -, rfl⟩ := gather_eq_some_iff.mp h
  rw [List.append_nil, lookup_reverse hnodup, lookup_eq_head?, ← values_known hname]
  rfl

end Document

namespace Advisory

open Document

/-! ## What an object says -/

/-- What an object gives for a field, under any of its names. -/
def given (members : List (String × Json)) (field : String) : List Json :=
  (members.filter fun m => Suggestion.canonicalName m.1 = field).map (·.2)

/-- What is given for a field is one text, or null, or nothing. -/
inductive SaysText : List Json → Option String → Prop
  | unsaid : SaysText [] none
  | null : SaysText [.null] none
  | text (t : String) : SaysText [.str t] (some t)

/-- What is given for a field is one array of texts, or nothing. -/
inductive SaysTexts : List Json → List String → Prop
  | unsaid : SaysTexts [] []
  | texts (ts : List String) : SaysTexts [.strings ts] ts

/-- An object words a suggestion: what it gives for each field fits the field. -/
structure Words (members : List (String × Json)) (s : Suggestion) : Prop where
  id : SaysText (given members "id") s.id
  title : SaysText (given members "title") s.title
  description : SaysText (given members "description") s.description
  severity : SaysText (given members "severity") s.severity
  affected : SaysTexts (given members "affectedResources") s.affected
  remediation : SaysText (given members "remediation") s.remediation
  references : SaysTexts (given members "references") s.references

theorem SaysText.length_le_one {vs : List Json} {t : Option String} (h : SaysText vs t) :
    vs.length ≤ 1 := by
  cases h with
  | unsaid => exact Nat.zero_le 1
  | null | text => exact Nat.le_refl 1

theorem SaysTexts.length_le_one {vs : List Json} {ts : List String} (h : SaysTexts vs ts) :
    vs.length ≤ 1 := by
  cases h with
  | unsaid => exact Nat.zero_le 1
  | texts => exact Nat.le_refl 1

theorem Words.length_le_one {members : List (String × Json)} {s : Suggestion}
    (h : Words members s) : ∀ field ∈ Suggestion.fieldNames, (given members field).length ≤ 1 := by
  simp only [Suggestion.fieldNames, List.forall_mem_cons]
  exact ⟨h.id.length_le_one, h.title.length_le_one, h.description.length_le_one,
    h.severity.length_le_one, h.affected.length_le_one, h.remediation.length_le_one,
    h.references.length_le_one, List.forall_mem_nil _⟩

/-! ## Leaves -/

theorem text?_toRaw_eq_some_iff {v : Json} {t : String} :
    Document.text? v.toRaw = some t ↔ v = .str t := by
  show Raw.text? v.toRaw = some t ↔ _
  cases v <;> simp [Json.toRaw, Raw.text?]

theorem mapM_text?_toRaw_eq_some_iff {items : List Json} {ts : List String} :
    (items.map Json.toRaw).mapM Document.text? = some ts ↔ items = ts.map .str := by
  induction items generalizing ts with
  | nil => cases ts <;> simp
  | cons v rest ih =>
    rw [List.map_cons, List.mapM_cons]
    simp only [Option.bind_eq_bind, Option.bind_eq_some_iff, text?_toRaw_eq_some_iff, ih,
      Option.pure_def, Option.some.injEq]
    cases ts with
    | nil => simp
    | cons t ts => simp

theorem texts?_toRaw_eq_some_iff {v : Json} {ts : List String} :
    Suggestion.texts? v.toRaw = some ts ↔ v = .strings ts := by
  cases v with
  | arr items =>
    show (Json.itemsToRaw items).mapM Document.text? = some ts ↔ _
    rw [Json.itemsToRaw_eq_map, mapM_text?_toRaw_eq_some_iff, Json.strings, Json.arr.injEq]
  | null | bool | num | str | obj =>
    simp [Json.toRaw, Json.strings, Suggestion.texts?, Document.items?, Raw.items?]

variable {fields : List (String × Raw)} {field : String} {vs : List Json}

theorem nullable_text?_iff (hlookup : lookup field fields = (vs.map Json.toRaw).head?)
    (hfew : vs.length ≤ 1) {t : Option String} :
    Document.nullable fields field Document.text? = some t ↔ SaysText vs t := by
  match vs, hfew with
  | [], _ =>
    rw [Document.nullable, hlookup]
    constructor
    · intro h
      cases h
      exact .unsaid
    · rintro ⟨⟩
      rfl
  | [v], _ =>
    rw [Document.nullable, hlookup]
    cases v with
    | null =>
      constructor
      · intro h
        cases h
        exact .null
      · rintro ⟨⟩
        rfl
    | str text =>
      constructor
      · intro h
        cases h
        exact .text text
      · rintro ⟨⟩
        rfl
    | bool | num | arr | obj =>
      constructor
      · intro h
        cases h
      · rintro ⟨⟩

theorem optional_texts?_iff (hlookup : lookup field fields = (vs.map Json.toRaw).head?)
    (hfew : vs.length ≤ 1) {ts : List String} :
    Document.optional fields field [] Suggestion.texts? = some ts ↔ SaysTexts vs ts := by
  match vs, hfew with
  | [], _ =>
    rw [Document.optional, hlookup]
    constructor
    · intro h
      cases h
      exact .unsaid
    · rintro ⟨⟩
      rfl
  | [v], _ =>
    rw [Document.optional, hlookup]
    show Suggestion.texts? v.toRaw = some ts ↔ _
    rw [texts?_toRaw_eq_some_iff]
    constructor
    · rintro rfl
      exact .texts ts
    · rintro ⟨⟩
      rfl

/-! ## Objects -/

theorem record?_canonical_obj (members : List (String × Json)) :
    Document.record? Suggestion.fieldNames (Suggestion.canonical (.obj members)) =
      gather Suggestion.fieldNames [] ((members.map fun m =>
        (Suggestion.canonicalName m.1, m.2.toRaw)).map fun m => (some m.1, m.2)) := by
  show gather _ [] ((Json.membersToRaw members).map _) = _
  rw [Json.membersToRaw_eq_map, List.map_map, List.map_map]
  rfl

theorem values_renamed (members : List (String × Json)) (field : String) :
    values field (members.map fun m => (Suggestion.canonicalName m.1, m.2.toRaw)) =
      (given members field).map Json.toRaw := by
  rw [values, given, List.filter_map, List.map_map, List.map_map]
  rfl

theorem record?_canonical_isSome_iff (members : List (String × Json)) :
    (Document.record? Suggestion.fieldNames (Suggestion.canonical (.obj members))).isSome = true ↔
      ∀ field ∈ Suggestion.fieldNames, (given members field).length ≤ 1 := by
  rw [record?_canonical_obj, gather_isSome_iff]
  simp only [values_renamed, List.length_map]

theorem lookup_record?_canonical {members : List (String × Json)}
    (h : Document.record? Suggestion.fieldNames (Suggestion.canonical (.obj members)) = some fields)
    (hfield : field ∈ Suggestion.fieldNames) :
    lookup field fields = ((given members field).map Json.toRaw).head? := by
  rw [record?_canonical_obj] at h
  rw [lookup_gather h hfield, values_renamed]

/-- An object is read to what it words. -/
theorem ofJson?_obj_eq_some_iff {members : List (String × Json)} {s : Suggestion} :
    Suggestion.ofJson? (.obj members) = some s ↔ Words members s := by
  have hsome := record?_canonical_isSome_iff members
  rw [Suggestion.ofJson?]
  cases hfields : Document.record? Suggestion.fieldNames (Suggestion.canonical (.obj members)) with
  | none =>
    rw [hfields] at hsome
    constructor
    · intro h
      cases h
    · intro h
      exact absurd (hsome.mpr h.length_le_one) Bool.false_ne_true
  | some fields =>
    have hfew := hsome.mp (Option.isSome_of_eq_some hfields)
    have htext : ∀ field ∈ Suggestion.fieldNames, ∀ t,
        Document.nullable fields field Document.text? = some t ↔
          SaysText (given members field) t :=
      fun field h _ => nullable_text?_iff (lookup_record?_canonical hfields h) (hfew field h)
    have htexts : ∀ field ∈ Suggestion.fieldNames, ∀ ts,
        Document.optional fields field [] Suggestion.texts? = some ts ↔
          SaysTexts (given members field) ts :=
      fun field h _ => optional_texts?_iff (lookup_record?_canonical hfields h) (hfew field h)
    simp only [Suggestion.fieldNames, List.forall_mem_cons] at htext htexts
    obtain ⟨hid, htitle, hdescription, hseverity, -, hremediation, -⟩ := htext
    obtain ⟨-, -, -, -, haffected, -, hreferences, -⟩ := htexts
    simp only [Option.bind_eq_bind, Option.bind_some, Option.bind_eq_some_iff, hid, htitle,
      hdescription, hseverity, haffected, hremediation, hreferences]
    constructor
    · rintro ⟨_, hid, _, htitle, _, hdescription, _, hseverity, _, haffected, _, hremediation,
        _, hreferences, ⟨⟩⟩
      exact ⟨hid, htitle, hdescription, hseverity, haffected, hremediation, hreferences⟩
    · intro h
      exact ⟨_, h.id, _, h.title, _, h.description, _, h.severity, _, h.affected, _,
        h.remediation, _, h.references, rfl⟩

/-! ## Arrays -/

/-- What becomes of an item. An object makes a suggestion just if it words one with a title that is
not blank, and a scalar makes none. Of an item that is an array nothing is said. -/
inductive Becomes : Json → Option Suggestion → Prop
  | kept {members : List (String × Json)} {s : Suggestion} :
      Words members s → s.isTitled = true → Becomes (.obj members) (some s)
  | dropped {members : List (String × Json)} :
      (∀ s, Words members s → s.isTitled = false) → Becomes (.obj members) none
  | null : Becomes .null none
  | bool (b : Bool) : Becomes (.bool b) none
  | num (n : Number) : Becomes (.num n) none
  | str (t : String) : Becomes (.str t) none
  | array (items : List Json) (made : Option Suggestion) : Becomes (.arr items) made

theorem becomes_ofJson? (v : Json) : Becomes v ((Suggestion.ofJson? v).filter (·.isTitled)) := by
  cases v with
  | null => exact .null
  | bool b => exact .bool b
  | num n => exact .num n
  | str t => exact .str t
  | arr items => exact .array items _
  | obj members =>
    cases hmade : (Suggestion.ofJson? (.obj members)).filter (·.isTitled) with
    | none =>
      refine .dropped fun s hs => ?_
      simpa using Option.filter_eq_none_iff.mp hmade s (ofJson?_obj_eq_some_iff.mpr hs)
    | some s =>
      obtain ⟨hread, htitled⟩ := Option.filter_eq_some_iff.mp hmade
      exact .kept (ofJson?_obj_eq_some_iff.mp hread) htitled

/-- **Each item is judged by itself.** The findings of an array are those of its items in their
order: one for an object with a title that is not blank and with other fields that fit, none for
another object or a scalar. -/
theorem parseFindings?_exact {array : String} {items : List Json}
    (h : Json.ofText? array = some (.arr items)) (g : Graph) :
    ∃ made : List (Option Suggestion), List.Forall₂ Becomes items made ∧
      parseFindings? array g = some (made.reduceOption.mapIdx fun i s => s.toFinding g i) := by
  refine ⟨items.map fun v => (Suggestion.ofJson? v).filter (·.isTitled), ?_, ?_⟩
  · rw [List.forall₂_map_right_iff, List.forall₂_same]
    exact fun v _ => becomes_ofJson? v
  · have hkept : (items.filterMap Suggestion.ofJson?).filter (·.isTitled) =
        (items.map fun v => (Suggestion.ofJson? v).filter (·.isTitled)).reduceOption := by
      rw [List.filter_filterMap, List.reduceOption, List.filterMap_map]
      rfl
    rw [parseFindings?, h]
    exact congrArg (fun kept => some (List.mapIdx (fun i s => s.toFinding g i) kept)) hkept

theorem parseFindings?_exact_mixed :
    ∃ (text : String) (items : List Json) (g : Graph),
      text = "[42,[7],\x7b\"fix\":\"Close\",\"nodes\":[\"db\",\"x\"],\"title\":\"Open\"\x7d," ++
        "\x7b\"fix\":null,\"recommendation\":\"Close\",\"title\":\"Open\"\x7d,null," ++
        "\x7b\"title\":\" \"\x7d,\x7b\"cost\":3,\"id\":null,\"title\":\"Weak\"\x7d]" ∧
      g = { nodes := [Node.ofType "db" "aws-rds"] } ∧
      Json.ofText? text = some (.arr items) ∧
      (∃ made, List.Forall₂ Becomes items made ∧
        parseFindings? text g = some (made.reduceOption.mapIdx fun i s => s.toFinding g i)) ∧
      (parseFindings? text g).map (·.map fun f => (f.id, f.title, f.affected)) =
        some [("ai-1", "Open", ["db"]), ("ai-2", "Weak", [])] := by
  let items : List Json := [.num (.int 42 (by decide)), .arr [.num (.int 7 (by decide))],
    .obj [("fix", .str "Close"), ("nodes", .strings ["db", "x"]), ("title", .str "Open")],
    .obj [("fix", .null), ("recommendation", .str "Close"), ("title", .str "Open")], .null,
    .obj [("title", .str " ")],
    .obj [("cost", .num (.int 3 (by decide))), ("id", .null), ("title", .str "Weak")]]
  have hcanonical : (Json.arr items).Canonical := by
    simp only [items, Json.Canonical, Json.CanonicalItems, Json.CanonicalMembers, KeysIncrease,
      Json.strings, List.map]
    decide +kernel
  have hintegral : (Json.arr items).Integral := by
    simp [items, Json.Integral, Json.IntegralItems, Json.IntegralMembers, Json.strings]
  have hread : Json.ofText? (Json.arr items).compact = some (.arr items) :=
    Json.ofText?_compact hcanonical hintegral (by decide +kernel)
  refine ⟨_, _, _, by decide +kernel, rfl, hread, parseFindings?_exact hread _, ?_⟩
  rw [parseFindings?, hread]
  decide +kernel

/-- A titled object is dropped when another of its fields does not fit. -/
theorem parseFindings?_drops_titled :
    ∃ members, Json.ofText? "[\x7b\"severity\":5,\"title\":\"Open port\"\x7d]" =
        some (.arr [.obj members]) ∧
      given members "title" = [.str "Open port"] ∧ Text.isBlankText "Open port" = false ∧
      parseFindings? "[\x7b\"severity\":5,\"title\":\"Open port\"\x7d]" {} = some [] := by
  let v := Json.arr [
    .obj [("severity", .num (.int 5 (by decide))), ("title", .str "Open port")]]
  have hcanonical : v.Canonical := by
    simp only [v, Json.Canonical, Json.CanonicalItems, Json.CanonicalMembers, KeysIncrease]
    decide +kernel
  have hintegral : v.Integral := by
    simp [v, Json.Integral, Json.IntegralItems, Json.IntegralMembers]
  have hread : Json.ofText? v.compact = some v :=
    Json.ofText?_compact hcanonical hintegral (by decide +kernel)
  have htext : v.compact = "[\x7b\"severity\":5,\"title\":\"Open port\"\x7d]" := by
    decide +kernel
  rw [htext] at hread
  exact ⟨_, hread, rfl, by decide +kernel, by decide +kernel⟩

end Advisory

end CloudGraph

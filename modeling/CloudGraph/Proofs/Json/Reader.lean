import CloudGraph.Proofs.Json.Reader.Scalars

/-!
# The reader takes the grammar

**Theorem (`isSome_ofChars?_iff`).** A text has a tree if and only if it is an element of the
grammar: a value and the blanks around it.

* *Soundness* is an induction on the fuel: what each reader takes off the front of its input is a
  part of the grammar (`Sound`).
* *Completeness* is an induction over the grammar: with fuel for each of its characters, the readers
  take all of a part and no more (`Taken`). A text is longer than the number of steps it needs, so
  the fuel of `ofChars?` never runs out.

With the reader, whether a text is in the grammar can be computed.
-/

namespace CloudGraph

namespace Raw

open Json

/-! ## Blanks in front -/

section

attribute [local simp] valueFrom itemsFrom membersFrom

theorem valueFrom_skipBlank (fuel : Nat) (cs : List Char) :
    valueFrom fuel (skipBlank cs) = valueFrom fuel cs := by
  cases fuel with
  | zero => rfl
  | succ fuel => simp [skipBlank_skipBlank]

theorem itemsFrom_skipBlank (fuel : Nat) (cs : List Char) :
    itemsFrom fuel (skipBlank cs) = itemsFrom fuel cs := by
  cases fuel with
  | zero => rfl
  | succ fuel => simp [valueFrom_skipBlank]

theorem membersFrom_skipBlank (fuel : Nat) (cs : List Char) :
    membersFrom fuel (skipBlank cs) = membersFrom fuel cs := by
  cases fuel with
  | zero => rfl
  | succ fuel => simp [skipBlank_skipBlank]

end

theorem valueFrom_append {b : List Char} (hb : IsBlanks b) (fuel : Nat) (cs : List Char) :
    valueFrom fuel (b ++ cs) = valueFrom fuel cs := by
  rw [← valueFrom_skipBlank, skipBlank_append hb, valueFrom_skipBlank]

/-! ## Soundness -/

/-- What each reader takes is a part of the grammar. -/
structure Sound (fuel : Nat) : Prop where
  value {cs rest : List Char} {v : Raw} (h : valueFrom fuel cs = some (v, rest)) :
    ∃ b t, IsBlanks b ∧ Derives .value t ∧ cs = b ++ t ++ rest
  items {cs rest : List Char} {vs : List Raw} (h : itemsFrom fuel cs = some (vs, rest)) :
    ∃ t, Derives .elements t ∧ cs = t ++ ']' :: rest
  members {cs rest : List Char} {ms : List (Option String × Raw)}
    (h : membersFrom fuel cs = some (ms, rest)) : ∃ t, Derives .members t ∧ cs = t ++ '}' :: rest

theorem valueFrom_sound {fuel : Nat} (ih : Sound fuel) {cs rest : List Char} {v : Raw}
    (h : valueFrom (fuel + 1) cs = some (v, rest)) :
    ∃ b t, IsBlanks b ∧ Derives .value t ∧ cs = b ++ t ++ rest := by
  obtain ⟨b, hb, hcs⟩ := exists_blanks cs
  suffices ∃ t, Derives .value t ∧ skipBlank cs = t ++ rest by
    obtain ⟨t, ht, heq⟩ := this
    exact ⟨b, t, hb, ht, by rw [hcs, heq, List.append_assoc]⟩
  rw [valueFrom] at h
  split at h
  next heq => cases h; exact ⟨_, .null, heq⟩
  next heq => cases h; exact ⟨_, .true, heq⟩
  next heq => cases h; exact ⟨_, .false, heq⟩
  next tail heq =>
    obtain ⟨⟨s, r⟩, hs, h⟩ := Option.map_eq_some_iff.mp h
    cases h
    obtain ⟨t, ht, htail⟩ := exists_text_of_textFrom hs
    exact ⟨t, .text ht, by rw [heq, htail]⟩
  next tail heq =>
    obtain ⟨b', hb', htail⟩ := exists_blanks tail
    split at h
    next r hr => cases h; exact ⟨_, .array (.noElements hb'), by rw [heq, htail, hr]; simp⟩
    next =>
      obtain ⟨⟨vs, r⟩, hvs, h⟩ := Option.map_eq_some_iff.mp h
      cases h
      -- The items are read behind the blanks, which are part of the first element.
      obtain ⟨es, hes, hr⟩ := ih.items hvs
      exact ⟨_, .array (.bracketed (Derives.elements_append hb' hes)), by rw [heq, htail, hr]; simp⟩
  next tail heq =>
    obtain ⟨b', hb', htail⟩ := exists_blanks tail
    split at h
    next r hr => cases h; exact ⟨_, .object (.noMembers hb'), by rw [heq, htail, hr]; simp⟩
    next =>
      obtain ⟨⟨ms, r⟩, hms, h⟩ := Option.map_eq_some_iff.mp h
      cases h
      obtain ⟨t, ht, hr⟩ := ih.members hms
      exact ⟨_, .object (.braced (Derives.members_append hb' ht)), by rw [heq, htail, hr]; simp⟩
  next tail heq =>
    obtain ⟨⟨n, r⟩, hn, h⟩ := Option.map_eq_some_iff.mp h
    cases h
    obtain ⟨whole, fraction, power, hw, hf, hp, rfl⟩ := exists_number_of_numberFrom hn
    exact ⟨_, .number ⟨['-'], whole, fraction, power, .inr rfl, hw, hf, hp, rfl⟩, by simp [heq]⟩
  next =>
    obtain ⟨⟨n, r⟩, hn, h⟩ := Option.map_eq_some_iff.mp h
    cases h
    obtain ⟨whole, fraction, power, hw, hf, hp, heq⟩ := exists_number_of_numberFrom hn
    exact ⟨_, .number ⟨[], whole, fraction, power, .inl rfl, hw, hf, hp, rfl⟩, by simp [heq]⟩

theorem itemsFrom_sound {fuel : Nat} (ih : Sound fuel) {cs rest : List Char} {vs : List Raw}
    (h : itemsFrom (fuel + 1) cs = some (vs, rest)) :
    ∃ t, Derives .elements t ∧ cs = t ++ ']' :: rest := by
  rw [itemsFrom] at h
  obtain ⟨⟨v, r⟩, hv, hnext⟩ := Option.bind_eq_some_iff.mp h
  obtain ⟨b, t, hb, ht, rfl⟩ := ih.value hv
  obtain ⟨b', hb', hr⟩ := exists_blanks r
  dsimp only at hnext
  split at hnext
  next r' heq =>
    obtain ⟨⟨vs', r''⟩, hvs, hresult⟩ := Option.bind_eq_some_iff.mp hnext
    obtain ⟨-, rfl⟩ := Prod.mk.inj (Option.some.inj hresult)
    obtain ⟨es, hes, rfl⟩ := ih.items hvs
    exact ⟨_, .moreElements (.padded hb ht hb') hes, by rw [hr, heq]; simp⟩
  next r' heq =>
    obtain ⟨-, rfl⟩ := Prod.mk.inj (Option.some.inj hnext)
    exact ⟨_, .oneElement (.padded hb ht hb'), by rw [hr, heq]; simp⟩
  next => cases hnext

theorem membersFrom_sound {fuel : Nat} (ih : Sound fuel) {cs rest : List Char}
    {ms : List (Option String × Raw)} (h : membersFrom (fuel + 1) cs = some (ms, rest)) :
    ∃ t, Derives .members t ∧ cs = t ++ '}' :: rest := by
  obtain ⟨b, hb, hcs⟩ := exists_blanks cs
  rw [membersFrom] at h
  split at h
  next tail heq =>
    obtain ⟨⟨key, r⟩, hkey, hcolon⟩ := Option.bind_eq_some_iff.mp h
    obtain ⟨k, hk, htail⟩ := exists_text_of_textFrom hkey
    obtain ⟨b', hb', hr⟩ := exists_blanks r
    dsimp only at hcolon
    split at hcolon
    next r' heq' =>
      obtain ⟨⟨v, r''⟩, hv, hnext⟩ := Option.bind_eq_some_iff.mp hcolon
      obtain ⟨c, t, hc, ht, rfl⟩ := ih.value hv
      obtain ⟨c', hc', hr'⟩ := exists_blanks r''
      have hm := Derives.named hb hk hb' (.padded hc ht hc')
      dsimp only at hnext
      split at hnext
      next r₃ heq'' =>
        obtain ⟨⟨ms', r₄⟩, hms, hresult⟩ := Option.bind_eq_some_iff.mp hnext
        obtain ⟨-, rfl⟩ := Prod.mk.inj (Option.some.inj hresult)
        obtain ⟨t', ht', rfl⟩ := ih.members hms
        refine ⟨_, .moreMembers hm ht', ?_⟩
        rw [hcs, heq, htail, hr, heq', hr', heq'']
        simp
      next r₃ heq'' =>
        obtain ⟨-, rfl⟩ := Prod.mk.inj (Option.some.inj hnext)
        refine ⟨_, .oneMember hm, ?_⟩
        rw [hcs, heq, htail, hr, heq', hr', heq'']
        simp
      next => cases hnext
    next => cases hcolon
  next => cases h

theorem sound (fuel : Nat) : Sound fuel := by
  induction fuel with
  | zero =>
    refine ⟨fun h => ?_, fun h => ?_, fun h => ?_⟩ <;> cases h
  | succ fuel ih => exact ⟨valueFrom_sound ih, itemsFrom_sound ih, membersFrom_sound ih⟩

/-! ## Completeness -/

theorem skipBlank_cons {c : Char} (h : isJsonBlank c = false) (cs : List Char) :
    skipBlank (c :: cs) = c :: cs :=
  List.dropWhile_cons_of_neg (by simp [h])

theorem valueFrom_digit (fuel : Nat) {d : Char} (hd : d.isDigit = true) (cs : List Char) :
    valueFrom (fuel + 1) (d :: cs) =
      (numberFrom false (d :: cs)).map fun (n, rest) => (.number n, rest) := by
  have hne (c : Char) (hc : c.isDigit = false) : d ≠ c := by rintro rfl; simp [hc] at hd
  have hblank : isJsonBlank d = false := by
    simp [isJsonBlank, hne]
  rw [valueFrom, skipBlank_cons hblank]
  split <;> simp_all

theorem valueFrom_bracket (fuel : Nat) (cs : List Char) :
    valueFrom (fuel + 1) ('[' :: cs) = match skipBlank cs with
      | ']' :: rest => some (.array [], rest)
      | rest => (itemsFrom fuel rest).map fun (items, rest) => (.array items, rest) := by
  rw [valueFrom, skipBlank_cons rfl]
  rfl

theorem valueFrom_brace (fuel : Nat) (cs : List Char) :
    valueFrom (fuel + 1) ('{' :: cs) = match skipBlank cs with
      | '}' :: rest => some (.object [], rest)
      | rest => (membersFrom fuel rest).map fun (members, rest) => (.object members, rest) := by
  rw [valueFrom, skipBlank_cons rfl]
  rfl

/-- No items start with the bracket that closes them. -/
theorem itemsFrom_eq_none {cs rest : List Char} (h : skipBlank cs = ']' :: rest) (fuel : Nat) :
    itemsFrom fuel cs = none := by
  rw [← itemsFrom_skipBlank, h]
  cases fuel with
  | zero => rfl
  | succ fuel =>
    cases fuel with
    | zero => rfl
    | succ fuel => rfl

theorem membersFrom_eq_none {cs rest : List Char} (h : skipBlank cs = '}' :: rest) (fuel : Nat) :
    membersFrom fuel cs = none := by
  rw [← membersFrom_skipBlank, h]
  cases fuel <;> rfl

/-- With fuel for each of its characters, the readers take all of a part and no more. -/
def Taken : Phrase → List Char → Prop
  | .value, cs | .array, cs | .object, cs => ∀ fuel rest, cs.length ≤ fuel →
    NotAhead IsNumberPart rest → ∃ v, valueFrom fuel (cs ++ rest) = some (v, rest)
  | .element, cs => ∀ fuel rest, cs.length ≤ fuel → NotAhead IsNumberPart rest →
    ∃ v r, valueFrom fuel (cs ++ rest) = some (v, r) ∧ skipBlank r = skipBlank rest
  | .elements, cs => ∀ fuel rest, cs.length < fuel →
    ∃ vs, itemsFrom fuel (cs ++ ']' :: rest) = some (vs, rest)
  | .member, cs => ∀ fuel rest, cs.length ≤ fuel →
    (∃ ms, membersFrom (fuel + 1) (cs ++ '}' :: rest) = some (ms, rest)) ∧
    ∀ ms r, membersFrom fuel rest = some (ms, r) →
      ∃ ms, membersFrom (fuel + 1) (cs ++ ',' :: rest) = some (ms, r)
  | .members, cs => ∀ fuel rest, cs.length < fuel →
    ∃ ms, membersFrom fuel (cs ++ '}' :: rest) = some (ms, rest)

theorem notAhead_of_isBlanks {b : List Char} (hb : IsBlanks b) : NotAhead IsNumberPart b := by
  intro c hc
  obtain rfl | rfl | rfl | rfl := hb c (List.mem_of_mem_head? hc) <;> decide

theorem taken_word {c : Char} {cs : List Char} {v : Raw}
    (h : ∀ fuel rest, valueFrom (fuel + 1) (c :: cs ++ rest) = some (v, rest)) :
    Taken .value (c :: cs) := by
  intro fuel rest hfuel _
  obtain _ | fuel := fuel
  · simp at hfuel
  exact ⟨v, h fuel rest⟩

theorem taken_number {n : List Char} (h : IsNumber n) : Taken .value n := by
  obtain ⟨sign, whole, fraction, power, hsign, hw, hf, hp, rfl⟩ := h
  intro fuel rest hfuel hrest
  obtain ⟨d, ds, rfl⟩ := List.exists_cons_of_ne_nil hw.1.1
  have hd : d.isDigit = true := hw.1.2 d (by simp)
  obtain _ | fuel := fuel
  · simp at hfuel
  obtain rfl | rfl := hsign
  · obtain ⟨n, hn⟩ := exists_numberFrom false hw hf hp hrest
    refine ⟨.number n, ?_⟩
    simp only [List.nil_append, List.cons_append] at hn ⊢
    rw [valueFrom_digit fuel hd, hn, Option.map_some]
  · obtain ⟨n, hn⟩ := exists_numberFrom true hw hf hp hrest
    refine ⟨.number n, ?_⟩
    rw [List.append_assoc, List.append_assoc, List.append_assoc, List.singleton_append, valueFrom,
      skipBlank_cons rfl]
    simp only [List.append_assoc] at hn
    simp only [hn, Option.map_some]

theorem taken_text {t : List Char} (h : IsText t) : Taken .value t := by
  intro fuel rest hfuel _
  obtain ⟨body, rfl, hbody⟩ := exists_textFrom h
  obtain ⟨s, hs⟩ := hbody rest
  obtain _ | fuel := fuel
  · simp at hfuel
  refine ⟨.text s, ?_⟩
  rw [List.cons_append, valueFrom, skipBlank_cons rfl]
  simp only [hs, Option.map_some]

theorem taken_noElements {b : List Char} (hb : IsBlanks b) : Taken .array ('[' :: b ++ [']']) := by
  intro fuel rest hfuel _
  obtain _ | fuel := fuel
  · simp at hfuel
  refine ⟨.array [], ?_⟩
  rw [List.append_assoc, List.cons_append, valueFrom_bracket, skipBlank_append hb]
  rfl

theorem taken_bracketed {es : List Char} (ih : Taken .elements es) :
    Taken .array ('[' :: es ++ [']']) := by
  intro fuel rest hfuel _
  obtain _ | fuel := fuel
  · simp at hfuel
  obtain ⟨vs, hvs⟩ := ih fuel rest (by simp at hfuel; omega)
  refine ⟨.array vs, ?_⟩
  rw [List.append_assoc, List.cons_append, List.singleton_append, valueFrom_bracket]
  split
  -- Where there are elements, the array is not taken for an empty one.
  next heq => rw [itemsFrom_eq_none heq] at hvs; cases hvs
  next => rw [itemsFrom_skipBlank, hvs, Option.map_some]

theorem taken_element {b v b' : List Char} (hb : IsBlanks b) (hb' : IsBlanks b')
    (ih : Taken .value v) : Taken .element (b ++ v ++ b') := by
  intro fuel rest hfuel hrest
  obtain ⟨x, hx⟩ := ih fuel (b' ++ rest) (by simp at hfuel; omega)
    ((notAhead_of_isBlanks hb').append hrest)
  refine ⟨x, b' ++ rest, ?_, skipBlank_append hb' rest⟩
  rw [List.append_assoc, List.append_assoc, valueFrom_append hb, hx]

theorem taken_oneElement {e : List Char} (ih : Taken .element e) : Taken .elements e := by
  intro fuel rest hfuel
  obtain _ | fuel := fuel
  · simp at hfuel
  obtain ⟨v, r, hv, hr⟩ := ih fuel (']' :: rest) (by omega) (by simp [NotAhead]; decide)
  refine ⟨[v], ?_⟩
  rw [itemsFrom, hv]
  simp [hr, skipBlank_cons (c := ']') rfl]

theorem taken_moreElements {e es : List Char} (ih : Taken .element e) (ihs : Taken .elements es) :
    Taken .elements (e ++ ',' :: es) := by
  intro fuel rest hfuel
  obtain _ | fuel := fuel
  · simp at hfuel
  simp only [List.length_append, List.length_cons] at hfuel
  obtain ⟨v, r, hv, hr⟩ := ih fuel (',' :: (es ++ ']' :: rest)) (by omega)
    (by simp [NotAhead]; decide)
  obtain ⟨vs, hvs⟩ := ihs fuel rest (by omega)
  refine ⟨v :: vs, ?_⟩
  rw [List.append_assoc, List.cons_append, itemsFrom, hv]
  simp [hr, skipBlank_cons (c := ',') rfl, hvs]

theorem taken_noMembers {b : List Char} (hb : IsBlanks b) : Taken .object ('{' :: b ++ ['}']) := by
  intro fuel rest hfuel _
  obtain _ | fuel := fuel
  · simp at hfuel
  refine ⟨.object [], ?_⟩
  rw [List.append_assoc, List.cons_append, valueFrom_brace, skipBlank_append hb]
  rfl

theorem taken_braced {ms : List Char} (ih : Taken .members ms) :
    Taken .object ('{' :: ms ++ ['}']) := by
  intro fuel rest hfuel _
  obtain _ | fuel := fuel
  · simp at hfuel
  obtain ⟨members, hms⟩ := ih fuel rest (by simp at hfuel; omega)
  refine ⟨.object members, ?_⟩
  rw [List.append_assoc, List.cons_append, List.singleton_append, valueFrom_brace]
  split
  next heq => rw [membersFrom_eq_none heq] at hms; cases hms
  next => rw [membersFrom_skipBlank, hms, Option.map_some]

theorem taken_member {b k b' e : List Char} (hb : IsBlanks b) (hk : IsText k) (hb' : IsBlanks b')
    (ih : Taken .element e) : Taken .member (b ++ k ++ b' ++ ':' :: e) := by
  intro fuel rest hfuel
  simp only [List.length_append, List.length_cons] at hfuel
  obtain ⟨body, rfl, hbody⟩ := exists_textFrom hk
  -- What stands up to the comma or the closing brace is the same in both cases.
  have start (c : Char) (hc : ¬ IsNumberPart c) (hblank : isJsonBlank c = false) :
      ∃ key v r, textFrom (body ++ (b' ++ ':' :: (e ++ c :: rest))) =
          some (key, b' ++ ':' :: (e ++ c :: rest)) ∧
        valueFrom fuel (e ++ c :: rest) = some (v, r) ∧ skipBlank r = c :: rest := by
    obtain ⟨key, hkey⟩ := hbody (b' ++ ':' :: (e ++ c :: rest))
    obtain ⟨v, r, hv, hr⟩ := ih fuel (c :: rest) (by omega) (by simpa [NotAhead] using hc)
    exact ⟨key, v, r, hkey, hv, hr.trans (skipBlank_cons hblank rest)⟩
  have hcolon (cs : List Char) : skipBlank (b' ++ ':' :: cs) = ':' :: cs := by
    rw [skipBlank_append hb', skipBlank_cons rfl]
  constructor
  · obtain ⟨key, v, r, hkey, hv, hr⟩ := start '}' (by decide) rfl
    refine ⟨[(key, v)], ?_⟩
    simp only [List.append_assoc, List.cons_append]
    rw [membersFrom, skipBlank_append hb, skipBlank_cons rfl]
    simp [hkey, hcolon, hv, hr]
  · intro ms r' hms
    obtain ⟨key, v, r, hkey, hv, hr⟩ := start ',' (by decide) rfl
    refine ⟨(key, v) :: ms, ?_⟩
    simp only [List.append_assoc, List.cons_append]
    rw [membersFrom, skipBlank_append hb, skipBlank_cons rfl]
    simp [hkey, hcolon, hv, hr, hms]

theorem taken_oneMember {m : List Char} (ih : Taken .member m) : Taken .members m := by
  intro fuel rest hfuel
  obtain _ | fuel := fuel
  · simp at hfuel
  exact (ih fuel rest (by omega)).1

theorem taken_moreMembers {m ms : List Char} (ih : Taken .member m) (ihs : Taken .members ms) :
    Taken .members (m ++ ',' :: ms) := by
  intro fuel rest hfuel
  obtain _ | fuel := fuel
  · simp at hfuel
  simp only [List.length_append, List.length_cons] at hfuel
  obtain ⟨members, hms⟩ := ihs fuel rest (by omega)
  rw [List.append_assoc, List.cons_append]
  exact (ih fuel _ (by omega)).2 members rest hms

theorem taken_of_derives {x : Phrase} {cs : List Char} (h : Derives x cs) : Taken x cs := by
  induction h with
  | null => exact taken_word (v := .null) fun fuel rest => rfl
  | true => exact taken_word (v := .bool true) fun fuel rest => rfl
  | false => exact taken_word (v := .bool false) fun fuel rest => rfl
  | number h => exact taken_number h
  | text h => exact taken_text h
  | array _ ih | object _ ih => exact ih
  | noElements hb => exact taken_noElements hb
  | bracketed _ ih => exact taken_bracketed ih
  | noMembers hb => exact taken_noMembers hb
  | braced _ ih => exact taken_braced ih
  | padded hb _ hb' ih => exact taken_element hb hb' ih
  | oneElement _ ih => exact taken_oneElement ih
  | moreElements _ _ ih ihs => exact taken_moreElements ih ihs
  | named hb hk hb' _ ih => exact taken_member hb hk hb' ih
  | oneMember _ ih => exact taken_oneMember ih
  | moreMembers _ _ ih ihs => exact taken_moreMembers ih ihs

/-! ## The texts with a tree -/

theorem isSome_ofChars?_iff {cs : List Char} : (ofChars? cs).isSome ↔ Derives .element cs := by
  constructor
  · intro h
    unfold ofChars? at h
    split at h
    next v rest hv =>
      obtain ⟨b, t, hb, ht, rfl⟩ := (sound _).value hv
      obtain ⟨b', hb', hrest⟩ := exists_blanks rest
      split at h
      next hend =>
        rw [List.isEmpty_iff.mp hend, List.append_nil] at hrest
        subst hrest
        exact .padded hb ht hb'
      next => cases h
    next => cases h
  · intro h
    obtain ⟨v, r, hv, hr⟩ := taken_of_derives h (cs.length + 1) [] (by omega) (by simp [NotAhead])
    rw [List.append_nil] at hv
    rw [ofChars?, hv]
    dsimp only
    rw [hr]
    rfl

end Raw

namespace Json

instance (cs : List Char) : Decidable (Derives .element cs) :=
  decidable_of_iff _ Raw.isSome_ofChars?_iff

theorem isArray_of_value {v : List Char} (h : Derives .value v) (hhead : v.head? = some '[') :
    IsArray v := by
  cases h with
  | array h => exact h
  | null | true | false => simp at hhead
  | text h =>
    obtain ⟨_, -, rfl⟩ := h
    simp at hhead
  | object h => cases h <;> simp at hhead
  | number h =>
    obtain ⟨sign, whole, fraction, power, hsign, ⟨⟨hne, hdigits⟩, -⟩, -, -, rfl⟩ := h
    obtain ⟨d, ds, rfl⟩ := List.exists_cons_of_ne_nil hne
    obtain rfl | rfl := hsign
    · obtain rfl : d = '[' := by simpa using hhead
      exact absurd (hdigits '[' (by simp)) (by decide)
    · simp at hhead

theorem isArray_iff {cs : List Char} :
    IsArray cs ↔ Derives .element cs ∧ cs.head? = some '[' ∧ cs.getLast? = some ']' := by
  have noBlanks : IsBlanks [] := by simp [IsBlanks]
  constructor
  · intro h
    refine ⟨by simpa using Derives.padded noBlanks (.array h) noBlanks, ?_⟩
    cases h <;> exact ⟨rfl, List.getLast?_concat⟩
  · rintro ⟨h, hhead, hlast⟩
    cases h with
    | @padded b v b' hb hv hb' =>
      obtain rfl : b = [] := by
        cases b with
        | nil => rfl
        | cons c b =>
          obtain rfl : c = '[' := by simpa using hhead
          simpa using hb '[' (by simp)
      obtain rfl : b' = [] := by
        obtain rfl | ⟨b', c, rfl⟩ := List.eq_nil_or_concat b'
        · rfl
        · rw [List.concat_eq_append, ← List.append_assoc, List.getLast?_concat] at hlast
          obtain rfl : c = ']' := by simpa using hlast
          simpa using hb' ']' (by simp)
      rw [List.nil_append, List.append_nil] at *
      exact isArray_of_value hv hhead

instance : DecidablePred IsArray := fun _ =>
  decidable_of_iff _ isArray_iff.symm

end Json

end CloudGraph

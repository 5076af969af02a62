import CloudGraph.Json.Writer
import CloudGraph.Proofs.Json.Reader

/-!
# Reading a written value

A value may be written with blanks around its parts, on one line or with an indent. `Spells` says
which texts are such spellings of a value whose numbers are integers; `Json.compact` and
`Json.pretty` write two of them.

**Theorem (`ofChars?_of_spells`).** Every spelling of a value is read as the tree of that value.

The proof is an induction over the spelling. The readers take an item and then look for the comma
or the closing bracket behind it, so the parts of an array are its first item and what is left
behind an item (`Part`), and what is said of the rest of an array is what the reader makes of it
once the item in front has been read (`Reads`).
-/

namespace CloudGraph

/-! ## Texts -/

namespace Raw

open Json

/-- The unit stands for the character. -/
def StandsFor (u : TextUnit) (c : Char) : Prop :=
  ∀ us, joinUnits (u :: us) = (joinUnits us).map (c :: ·)

theorem standsFor_char (c : Char) : StandsFor (.char c) c := fun us => by
  rw [joinUnits]
  rfl

theorem standsFor_code {n : Nat} (h : n < 0xD800) : StandsFor (.code n) (Char.ofNat n) := by
  intro us
  have hlow : ¬ (0xD800 ≤ n ∧ n < 0xDC00) := by omega
  have hhigh : ¬ (0xDC00 ≤ n ∧ n < 0xE000) := by omega
  have hnone : ¬ (0xD800 ≤ n ∧ n < 0xE000) := by omega
  rcases us with _ | ⟨u | m, us⟩
  · rw [joinUnits.eq_4 _ _ (by simp), if_neg hnone]
    rfl
  · rw [joinUnits.eq_4 _ _ (by simp), if_neg hnone]
    rfl
  · rw [joinUnits, if_neg hlow, if_neg hhigh]
    rfl

/-- The digits of a control character are its code unit. -/
theorem codeUnit?_hexDigits : ∀ n < 0x20, ∃ a b c d, Text.hexDigits 4 n = [a, b, c, d] ∧
    codeUnit? a b c d = some n := by
  intro n hn
  refine ⟨_, _, _, _, rfl, ?_⟩
  revert n
  decide

theorem exists_unit_escapeChar (c : Char) :
    ∃ u, StandsFor u c ∧ ∀ cs, unitsFrom (escapeChar c ++ cs) =
      (unitsFrom cs).map fun r => (u :: r.1, r.2) := by
  have hshort : ∀ e, simpleEscape? e = some c → e ≠ 'u' → ∀ cs, unitsFrom (['\\', e] ++ cs) =
      (unitsFrom cs).map fun r => (.char c :: r.1, r.2) := by
    intro e he hu cs
    rw [List.cons_append, List.singleton_append, unitsFrom.eq_4 _ _ (by simp [hu]), he]
    cases unitsFrom cs <;> rfl
  unfold escapeChar
  split_ifs with hquote hbackslash hb hf hn hr ht hcontrol
  · exact ⟨.char c, standsFor_char c, hshort '"' (by rw [hquote]; rfl) (by decide)⟩
  · exact ⟨.char c, standsFor_char c, hshort '\\' (by rw [hbackslash]; rfl) (by decide)⟩
  · exact ⟨.char c, standsFor_char c, hshort 'b' (by rw [hb]; rfl) (by decide)⟩
  · exact ⟨.char c, standsFor_char c, hshort 'f' (by rw [hf]; rfl) (by decide)⟩
  · exact ⟨.char c, standsFor_char c, hshort 'n' (by rw [hn]; rfl) (by decide)⟩
  · exact ⟨.char c, standsFor_char c, hshort 'r' (by rw [hr]; rfl) (by decide)⟩
  · exact ⟨.char c, standsFor_char c, hshort 't' (by rw [ht]; rfl) (by decide)⟩
  · refine ⟨.code c.toNat, ?_, fun cs => ?_⟩
    · have := standsFor_code (n := c.toNat) (by omega)
      rwa [Char.ofNat_toNat] at this
    · obtain ⟨a, b, x, y, hdigits, hvalue⟩ := codeUnit?_hexDigits c.toNat hcontrol
      rw [hdigits]
      simp only [List.cons_append, List.nil_append, unitsFrom, hvalue]
      cases unitsFrom cs <;> rfl
  · refine ⟨.char c, standsFor_char c, fun cs => ?_⟩
    have hplain : ¬ (c.toNat < 0x20 ∨ c = '\\') := not_or.mpr ⟨hcontrol, hbackslash⟩
    rw [List.singleton_append, unitsFrom.eq_5 _ _ hquote (by simp [hbackslash])
      (by simp [hbackslash]), if_neg hplain]
    cases unitsFrom cs <;> rfl

theorem exists_units_escaped (cs rest : List Char) :
    ∃ us, unitsFrom (cs.flatMap escapeChar ++ '"' :: rest) = some (us, rest) ∧
      joinUnits us = some cs := by
  induction cs with
  | nil => exact ⟨[], by simp [unitsFrom], by simp [joinUnits]⟩
  | cons c cs ih =>
    obtain ⟨us, hus, hjoin⟩ := ih
    obtain ⟨u, hstands, hu⟩ := exists_unit_escapeChar c
    refine ⟨u :: us, ?_, ?_⟩
    · rw [List.flatMap_cons, List.append_assoc, hu, hus, Option.map_some]
    · rw [hstands, hjoin, Option.map_some]

/-- A quoted text is read as it was. -/
theorem textFrom_escaped (s : String) (rest : List Char) :
    textFrom (s.toList.flatMap escapeChar ++ '"' :: rest) = some (some s, rest) := by
  obtain ⟨us, hus, hjoin⟩ := exists_units_escaped s.toList rest
  rw [textFrom, hus]
  simp [hjoin]

/-! ## Integers -/

theorem isWhole_digitText (n : Nat) : IsWhole (Decimal.digitText n) := by
  have hdigits : ∀ n, IsDigits (Decimal.digitText n) := fun n =>
    ⟨Nat.toDigits_ne_nil, fun c hc => Nat.isDigit_of_mem_toDigits (by decide) (by decide) hc⟩
  refine ⟨hdigits n, ?_⟩
  induction n using Nat.strong_induction_on with
  | _ n ih =>
    intro hzero
    unfold Decimal.digitText at hzero ⊢
    rcases Nat.lt_or_ge n 10 with hn | hn
    · rw [Nat.toDigits_of_lt_base hn] at hzero ⊢
      simpa using hzero
    · -- The digits in front would be a zero alone, so the number would be less than ten.
      rw [Nat.toDigits_of_base_le (by decide) hn, List.head?_append_of_ne_nil _
        Nat.toDigits_ne_nil] at hzero
      have hfront := congrArg (Nat.ofDigitChars 10 · 0) (ih (n / 10) (by omega) hzero)
      have hvalue : Nat.ofDigitChars 10 (Decimal.digitText (n / 10)) 0 = n / 10 :=
        Nat.ofDigitChars_toDigits (by decide) (by decide)
      have hsmall : n / 10 = 0 := hvalue.symm.trans hfront
      omega

theorem numberFrom_digitText (negative : Bool) (n : Nat) {rest : List Char}
    (hrest : NotAhead IsNumberPart rest) :
    numberFrom negative (Decimal.digitText n ++ rest) =
      some (NumberText.number? ⟨negative, Decimal.digitText n, [], none⟩, rest) := by
  have hspan := spanDigits_append (isWhole_digitText n).1 (hrest.mono fun _ => .inl)
  rw [numberFrom_of_isWhole negative (isWhole_digitText n) hspan]
  cases rest with
  | nil => rfl
  | cons c rest =>
    have hc : ¬ IsNumberPart c := hrest c rfl
    have hpoint : c ≠ '.' := fun h => hc (.inr (.inl h))
    have hpower : ¬ (c = 'e' ∨ c = 'E') := fun h => hc (.inr (.inr h))
    simp [fractionFrom, powerFrom, hpoint, hpower]

theorem number?_int (n : Int) (h) :
    NumberText.number? ⟨decide (n < 0), Decimal.digitText n.natAbs, [], none⟩ =
      some (.int n h) := by
  have hvalue : Decimal.digitsValue (Decimal.digitText n.natAbs) = n.natAbs :=
    Nat.ofDigitChars_toDigits (by decide) (by decide)
  have hsigned : (if decide (n < 0) = true then -(n.natAbs : Int) else n.natAbs) = n := by
    split_ifs with hn <;> simp at hn <;> omega
  have hzero : (decide (n < 0) && n == 0) = false := by
    rw [Bool.and_eq_false_iff, decide_eq_false_iff_not, beq_eq_false_iff_ne]
    omega
  unfold NumberText.number?
  simp only [hvalue, hsigned, hzero]
  simp [Number.ofInt?, h]

end Raw

/-! ## Spellings -/

namespace Json

/-- A value, or what is left of an array or an object behind one of its items. -/
inductive Part where
  | value (v : Json)
  | items (rest : List Json)
  | members (rest : List (String × Json))

/-- The texts of each part. A number must be an integer. -/
inductive Spells : Part → List Char → Prop
  | null : Spells (.value .null) ['n', 'u', 'l', 'l']
  | true : Spells (.value (.bool true)) ['t', 'r', 'u', 'e']
  | false : Spells (.value (.bool false)) ['f', 'a', 'l', 's', 'e']
  | int (n : Int) (h) : Spells (.value (.num (.int n h))) (Number.int n h).chars
  | text (s : String) : Spells (.value (.str s)) (quoteChars s.toList)
  | noItems : Spells (.value (.arr [])) ['[', ']']
  | array {v : Json} {rest : List Json} {b t ts : List Char} (hb : IsBlanks b)
    (hv : Spells (.value v) t) (hrest : Spells (.items rest) ts) :
    Spells (.value (.arr (v :: rest))) ('[' :: (b ++ t ++ ts))
  | noMembers : Spells (.value (.obj [])) ['{', '}']
  | object {k : String} {v : Json} {rest : List (String × Json)} {b b' t ts : List Char}
    (hb : IsBlanks b) (hb' : IsBlanks b') (hv : Spells (.value v) t)
    (hrest : Spells (.members rest) ts) :
    Spells (.value (.obj ((k, v) :: rest)))
      ('{' :: (b ++ quoteChars k.toList ++ ':' :: (b' ++ t ++ ts)))
  | lastItem {b : List Char} (hb : IsBlanks b) : Spells (.items []) (b ++ [']'])
  | nextItem {v : Json} {rest : List Json} {b t ts : List Char} (hb : IsBlanks b)
    (hv : Spells (.value v) t) (hrest : Spells (.items rest) ts) :
    Spells (.items (v :: rest)) (',' :: (b ++ t ++ ts))
  | lastMember {b : List Char} (hb : IsBlanks b) : Spells (.members []) (b ++ ['}'])
  | nextMember {k : String} {v : Json} {rest : List (String × Json)} {b b' t ts : List Char}
    (hb : IsBlanks b) (hb' : IsBlanks b') (hv : Spells (.value v) t)
    (hrest : Spells (.members rest) ts) :
    Spells (.members ((k, v) :: rest))
      (',' :: (b ++ quoteChars k.toList ++ ':' :: (b' ++ t ++ ts)))

end Json

namespace Raw

open Json

/-- The text starts with a character that no number goes on with. -/
def Bars (cs : List Char) : Prop :=
  ∃ c t, cs = c :: t ∧ ¬ IsNumberPart c

theorem Bars.notAhead {cs : List Char} (h : Bars cs) (rest : List Char) :
    NotAhead IsNumberPart (cs ++ rest) := by
  obtain ⟨c, t, rfl, hc⟩ := h
  simpa [NotAhead] using hc

theorem Bars.length_pos {cs : List Char} (h : Bars cs) : 0 < cs.length := by
  obtain ⟨c, t, rfl, -⟩ := h
  exact Nat.succ_pos _

theorem bars_append {b : List Char} (hb : IsBlanks b) {c : Char} (hc : ¬ IsNumberPart c) :
    Bars (b ++ [c]) := by
  cases b with
  | nil => exact ⟨c, [], rfl, hc⟩
  | cons d b => exact ⟨d, b ++ [c], rfl, notAhead_of_isBlanks hb d rfl⟩

/-- With fuel for each of its characters, the reader of a part takes it all and makes the tree of
it. The reader of a rest starts with the item in front. -/
def Reads : Part → List Char → Prop
  | .value v, cs => ∀ fuel rest, cs.length ≤ fuel → NotAhead IsNumberPart rest →
    valueFrom fuel (cs ++ rest) = some (v.toRaw, rest)
  | .items vs, cs => Bars cs ∧ ∀ fuel rest input r, cs.length ≤ fuel + 1 →
    valueFrom fuel input = some (r, cs ++ rest) →
    itemsFrom (fuel + 1) input = some (r :: itemsToRaw vs, rest)
  | .members ms, cs => Bars cs ∧ ∀ fuel rest b k input r, cs.length ≤ fuel + 1 → IsBlanks b →
    valueFrom fuel input = some (r, cs ++ rest) →
    membersFrom (fuel + 1) (b ++ quoteChars k ++ ':' :: input) =
      some ((some (String.ofList k), r) :: membersToRaw ms, rest)

theorem reads_word {v : Json} {c : Char} {cs : List Char}
    (h : ∀ fuel rest, valueFrom (fuel + 1) (c :: cs ++ rest) = some (v.toRaw, rest)) :
    Reads (.value v) (c :: cs) := by
  intro fuel rest hfuel _
  obtain _ | fuel := fuel
  · simp at hfuel
  exact h fuel rest

theorem reads_int (n : Int) (h) : Reads (.value (.num (.int n h))) (Number.int n h).chars := by
  intro fuel rest hfuel hrest
  have hread := numberFrom_digitText (decide (n < 0)) n.natAbs hrest
  rw [number?_int n h] at hread
  have hchars : (Number.int n h).chars =
      (if n < 0 then ['-'] else []) ++ Decimal.digitText n.natAbs := rfl
  obtain ⟨d, ds, hdigits⟩ := List.exists_cons_of_ne_nil (isWhole_digitText n.natAbs).1.1
  have hd : d.isDigit = true := (isWhole_digitText n.natAbs).1.2 d (by simp [hdigits])
  rw [hdigits] at hread hchars
  rw [hchars] at hfuel ⊢
  obtain _ | fuel := fuel
  · split_ifs at hfuel <;> simp at hfuel
  split_ifs with hn
  · rw [decide_eq_true hn] at hread
    rw [List.singleton_append, List.cons_append, valueFrom, skipBlank_cons rfl]
    simp only [hread, Option.map_some]
    rfl
  · rw [decide_eq_false hn] at hread
    rw [List.nil_append, List.cons_append, valueFrom_digit fuel hd, ← List.cons_append, hread]
    rfl

theorem quoteChars_append (cs rest : List Char) :
    quoteChars cs ++ rest = '"' :: (cs.flatMap escapeChar ++ '"' :: rest) := by
  simp [quoteChars]

theorem reads_text (s : String) : Reads (.value (.str s)) (quoteChars s.toList) := by
  intro fuel rest hfuel _
  obtain _ | fuel := fuel
  · simp [quoteChars] at hfuel
  rw [quoteChars_append, valueFrom, skipBlank_cons rfl]
  simp only [textFrom_escaped, Option.map_some]
  rfl

/-- A value between blanks and a rest. -/
theorem reads_behind {v : Json} {b t ts : List Char} (hb : IsBlanks b) (h : Reads (.value v) t)
    (hbars : Bars ts) (rest : List Char) (fuel : Nat) (hfuel : t.length ≤ fuel) :
    valueFrom fuel (b ++ (t ++ (ts ++ rest))) = some (v.toRaw, ts ++ rest) := by
  rw [valueFrom_append hb, h fuel _ hfuel (hbars.notAhead rest)]

theorem reads_array {v : Json} {vs : List Json} {b t ts : List Char} (hb : IsBlanks b)
    (ih : Reads (.value v) t) (ihs : Reads (.items vs) ts) :
    Reads (.value (.arr (v :: vs))) ('[' :: (b ++ t ++ ts)) := by
  intro fuel rest hfuel _
  obtain ⟨hbars, hitems⟩ := ihs
  have hpos := hbars.length_pos
  simp only [List.length_cons, List.length_append] at hfuel
  obtain _ | _ | fuel := fuel
  · omega
  · omega
  have hv := reads_behind hb ih hbars rest fuel (by omega)
  have hread := hitems fuel rest _ v.toRaw (by omega) hv
  rw [List.cons_append, List.append_assoc, List.append_assoc, valueFrom_bracket]
  split
  next heq => rw [itemsFrom_eq_none heq] at hread; cases hread
  next => rw [itemsFrom_skipBlank, hread]; rfl

theorem reads_lastItem {b : List Char} (hb : IsBlanks b) : Reads (.items []) (b ++ [']']) := by
  refine ⟨bars_append hb (by decide), fun fuel rest input r _ hr => ?_⟩
  rw [itemsFrom, hr, List.append_assoc]
  simp [skipBlank_append hb, skipBlank_cons (c := ']') rfl, itemsToRaw]

theorem reads_nextItem {v : Json} {vs : List Json} {b t ts : List Char} (hb : IsBlanks b)
    (ih : Reads (.value v) t) (ihs : Reads (.items vs) ts) :
    Reads (.items (v :: vs)) (',' :: (b ++ t ++ ts)) := by
  obtain ⟨hbars, hitems⟩ := ihs
  have hpos := hbars.length_pos
  refine ⟨⟨',', _, rfl, by decide⟩, fun fuel rest input r hfuel hr => ?_⟩
  simp only [List.length_cons, List.length_append] at hfuel
  obtain _ | fuel := fuel
  · omega
  have hv := reads_behind hb ih hbars rest fuel (by omega)
  have hread := hitems fuel rest _ v.toRaw (by omega) hv
  rw [itemsFrom, hr]
  simp only [Option.bind_eq_bind, Option.bind_some, List.cons_append, List.append_assoc,
    skipBlank_cons (c := ',') rfl, hread]
  rfl

theorem reads_object {k : String} {v : Json} {ms : List (String × Json)} {b b' t ts : List Char}
    (hb : IsBlanks b) (hb' : IsBlanks b') (ih : Reads (.value v) t)
    (ihs : Reads (.members ms) ts) :
    Reads (.value (.obj ((k, v) :: ms)))
      ('{' :: (b ++ quoteChars k.toList ++ ':' :: (b' ++ t ++ ts))) := by
  intro fuel rest hfuel _
  obtain ⟨hbars, hmembers⟩ := ihs
  have hpos := hbars.length_pos
  simp only [List.length_cons, List.length_append] at hfuel
  obtain _ | _ | fuel := fuel
  · omega
  · omega
  have hv := reads_behind hb' ih hbars rest fuel (by omega)
  have hread := hmembers fuel rest b k.toList _ v.toRaw (by omega) hb hv
  rw [String.ofList_toList] at hread
  simp only [List.cons_append, List.append_assoc] at hread ⊢
  rw [valueFrom_brace]
  split
  next heq => rw [membersFrom_eq_none heq] at hread; cases hread
  next => rw [membersFrom_skipBlank, hread]; rfl

/-- The name, the colon and the value in front of a rest. -/
theorem membersFrom_named {b k input rest : List Char} {r : Raw} {fuel : Nat} (hb : IsBlanks b)
    (hr : valueFrom fuel input = some (r, rest)) :
    membersFrom (fuel + 1) (b ++ quoteChars k ++ ':' :: input) = match skipBlank rest with
      | ',' :: rest => (membersFrom fuel rest).map fun (members, rest) =>
          ((some (String.ofList k), r) :: members, rest)
      | '}' :: rest => some ([(some (String.ofList k), r)], rest)
      | _ => none := by
  have htext := textFrom_escaped (String.ofList k) (':' :: input)
  rw [String.toList_ofList] at htext
  rw [List.append_assoc, quoteChars_append, membersFrom, skipBlank_append hb, skipBlank_cons rfl]
  simp only [htext, Option.bind_eq_bind, Option.bind_some, skipBlank_cons (c := ':') rfl, hr]
  rcases skipBlank rest with _ | ⟨c, tail⟩
  · rfl
  by_cases hcomma : c = ','
  · subst hcomma
    show (membersFrom fuel tail).bind _ = (membersFrom fuel tail).map _
    cases membersFrom fuel tail <;> rfl
  by_cases hbrace : c = '}'
  · subst hbrace
    rfl
  · simp [hcomma, hbrace]

theorem reads_lastMember {b : List Char} (hb : IsBlanks b) :
    Reads (.members []) (b ++ ['}']) := by
  refine ⟨bars_append hb (by decide), fun fuel rest b' k input r _ hb' hr => ?_⟩
  rw [membersFrom_named hb' hr, List.append_assoc, skipBlank_append hb, List.singleton_append,
    skipBlank_cons rfl]
  rfl

theorem reads_nextMember {k : String} {v : Json} {ms : List (String × Json)}
    {b b' t ts : List Char} (hb : IsBlanks b) (hb' : IsBlanks b') (ih : Reads (.value v) t)
    (ihs : Reads (.members ms) ts) :
    Reads (.members ((k, v) :: ms))
      (',' :: (b ++ quoteChars k.toList ++ ':' :: (b' ++ t ++ ts))) := by
  obtain ⟨hbars, hmembers⟩ := ihs
  have hpos := hbars.length_pos
  refine ⟨⟨',', _, rfl, by decide⟩, fun fuel rest d name input r hfuel hd hr => ?_⟩
  simp only [List.length_cons, List.length_append] at hfuel
  obtain _ | fuel := fuel
  · omega
  have hv := reads_behind hb' ih hbars rest fuel (by omega)
  have hread := hmembers fuel rest b k.toList _ v.toRaw (by omega) hb hv
  rw [String.ofList_toList, List.append_assoc] at hread
  rw [membersFrom_named hd hr]
  simp only [List.cons_append, List.append_assoc, skipBlank_cons (c := ',') rfl, hread,
    Option.map_some]
  rfl

theorem reads_of_spells {p : Part} {cs : List Char} (h : Spells p cs) : Reads p cs := by
  induction h with
  | null | true | false => exact reads_word fun fuel rest => rfl
  | int n h => exact reads_int n h
  | text s => exact reads_text s
  | noItems | noMembers => exact reads_word fun fuel rest => rfl
  | array hb _ _ ih ihs => exact reads_array hb ih ihs
  | object hb hb' _ _ ih ihs => exact reads_object hb hb' ih ihs
  | lastItem hb => exact reads_lastItem hb
  | nextItem hb _ _ ih ihs => exact reads_nextItem hb ih ihs
  | lastMember hb => exact reads_lastMember hb
  | nextMember hb hb' _ _ ih ihs => exact reads_nextMember hb hb' ih ihs

theorem ofChars?_of_spells {v : Json} {cs : List Char} (h : Spells (.value v) cs) :
    ofChars? cs = some v.toRaw := by
  have hread := reads_of_spells h (cs.length + 1) [] (Nat.le_succ _) (by simp [NotAhead])
  rw [List.append_nil] at hread
  rw [ofChars?, hread]
  rfl

end Raw

/-! ## Writing -/

namespace Json

mutual

/-- No number in the value is a double. -/
def Integral : Json → Prop
  | .num (.double _) => False
  | .arr items => IntegralItems items
  | .obj members => IntegralMembers members
  | _ => True

def IntegralItems : List Json → Prop
  | [] => True
  | v :: rest => v.Integral ∧ IntegralItems rest

def IntegralMembers : List (String × Json) → Prop
  | [] => True
  | (_, v) :: rest => v.Integral ∧ IntegralMembers rest

end

mutual

instance decidableIntegral : (v : Json) → Decidable v.Integral
  | .null | .bool _ | .str _ | .num (.int ..) => .isTrue trivial
  | .num (.double _) => .isFalse id
  | .arr items => decidableIntegralItems items
  | .obj members => decidableIntegralMembers members

instance decidableIntegralItems : (items : List Json) → Decidable (IntegralItems items)
  | [] => .isTrue trivial
  | v :: rest => @instDecidableAnd _ _ (decidableIntegral v) (decidableIntegralItems rest)

instance decidableIntegralMembers :
    (members : List (String × Json)) → Decidable (IntegralMembers members)
  | [] => .isTrue trivial
  | (_, v) :: rest => @instDecidableAnd _ _ (decidableIntegral v) (decidableIntegralMembers rest)

end

theorem isBlanks_nil : IsBlanks [] := List.forall_mem_nil _

theorem isBlanks_space : IsBlanks [' '] := by
  simp [IsBlanks]

theorem isBlanks_newline (level : Nat) : IsBlanks (newline level) := by
  simp [IsBlanks, newline]

mutual

theorem spells_compactChars : (v : Json) → v.Integral → Spells (.value v) v.compactChars
  | .null, _ => .null
  | .bool true, _ => .true
  | .bool false, _ => .false
  | .num (.int n h), _ => .int n h
  | .num (.double _), h => h.elim
  | .str s, _ => .text s
  | .arr [], _ => .noItems
  | .arr (v :: rest), ⟨hv, hrest⟩ =>
    .array isBlanks_nil (spells_compactChars v hv) (spells_compactItems rest hrest)
  | .obj [], _ => .noMembers
  | .obj ((k, v) :: rest), ⟨hv, hrest⟩ => by
    have h := Spells.object isBlanks_nil isBlanks_nil (k := k) (spells_compactChars v hv)
      (spells_compactMembers rest hrest)
    simpa [compactChars] using h

theorem spells_compactItems : (vs : List Json) → IntegralItems vs →
    Spells (.items vs) (compactItems vs)
  | [], _ => .lastItem isBlanks_nil
  | v :: rest, ⟨hv, hrest⟩ =>
    .nextItem isBlanks_nil (spells_compactChars v hv) (spells_compactItems rest hrest)

theorem spells_compactMembers : (ms : List (String × Json)) → IntegralMembers ms →
    Spells (.members ms) (compactMembers ms)
  | [], _ => .lastMember isBlanks_nil
  | (k, v) :: rest, ⟨hv, hrest⟩ => by
    have h := Spells.nextMember isBlanks_nil isBlanks_nil (k := k) (spells_compactChars v hv)
      (spells_compactMembers rest hrest)
    simpa [compactMembers] using h

end

mutual

theorem spells_prettyChars (level : Nat) : (v : Json) → v.Integral →
    Spells (.value v) (v.prettyChars level)
  | .null, _ => .null
  | .bool true, _ => .true
  | .bool false, _ => .false
  | .num (.int n h), _ => .int n h
  | .num (.double _), h => h.elim
  | .str s, _ => .text s
  | .arr [], _ => .noItems
  | .arr (v :: rest), ⟨hv, hrest⟩ =>
    .array (isBlanks_newline _) (spells_prettyChars (level + 1) v hv)
      (spells_prettyItems level rest hrest)
  | .obj [], _ => .noMembers
  | .obj ((k, v) :: rest), ⟨hv, hrest⟩ => by
    have h := Spells.object (isBlanks_newline (level + 1)) isBlanks_space
      (k := k) (spells_prettyChars (level + 1) v hv) (spells_prettyMembers level rest hrest)
    simpa [prettyChars] using h

theorem spells_prettyItems (level : Nat) : (vs : List Json) → IntegralItems vs →
    Spells (.items vs) (prettyItems level vs)
  | [], _ => .lastItem (isBlanks_newline level)
  | v :: rest, ⟨hv, hrest⟩ =>
    .nextItem (isBlanks_newline _) (spells_prettyChars (level + 1) v hv)
      (spells_prettyItems level rest hrest)

theorem spells_prettyMembers (level : Nat) : (ms : List (String × Json)) → IntegralMembers ms →
    Spells (.members ms) (prettyMembers level ms)
  | [], _ => .lastMember (isBlanks_newline level)
  | (k, v) :: rest, ⟨hv, hrest⟩ => by
    have h := Spells.nextMember (isBlanks_newline (level + 1)) isBlanks_space
      (k := k) (spells_prettyChars (level + 1) v hv) (spells_prettyMembers level rest hrest)
    simpa [prettyMembers] using h

end

end Json

end CloudGraph

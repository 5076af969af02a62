import CloudGraph.Proofs.Generate.Expressions.Escapes

/-!
# Different values have different expressions

The expression of a value tells the value, and where it ends (`chars_append_inj`), as long as the
numbers are told by their texts.

The first character of an expression tells what kind of value it is (`kindOf?_head?`). A quoted text
ends at its quote, and an array or object at its bracket. A number and a bare key have no end of
their own: what follows a number is a comma, a bracket or a line break, and what follows a key is a
blank, and neither can go on a number or a key (`eq_of_append_eq`).
-/

namespace CloudGraph

namespace Json

mutual

/-- Whether all numbers of a value are among some numbers. -/
def AllNumbers (numbers : Number → Prop) : Json → Prop
  | .num n => numbers n
  | .arr items => AllNumbersItems numbers items
  | .obj members => AllNumbersMembers numbers members
  | _ => True

def AllNumbersItems (numbers : Number → Prop) : List Json → Prop
  | [] => True
  | v :: rest => v.AllNumbers numbers ∧ AllNumbersItems numbers rest

def AllNumbersMembers (numbers : Number → Prop) : List (String × Json) → Prop
  | [] => True
  | (_, v) :: rest => v.AllNumbers numbers ∧ AllNumbersMembers numbers rest

end

end Json

/-- Numbers that are decimals, no two of them with the same text. -/
structure Number.ToldByText (numbers : Number → Prop) : Prop where
  finite : ∀ n, numbers n → n.IsFinite
  injective : ∀ m n, numbers m → numbers n → m.text = n.text → m = n

namespace Hcl

open Decimal Json

variable {a b s t : List Char} {indent : Nat} {numbers : Number → Prop} {v w : Json}

/-! ## Parts without an end -/

/-- What follows the longest run of some characters tells the run. -/
theorem eq_of_append_eq {p : Char → Bool} (ha : ∀ c ∈ a, p c = true) (hb : ∀ c ∈ b, p c = true)
    (hs : ∀ c ∈ s.head?, p c = false) (ht : ∀ c ∈ t.head?, p c = false) (h : a ++ s = b ++ t) :
    a = b ∧ s = t := by
  have hrun : ∀ a s : List Char, (∀ c ∈ a, p c = true) → (∀ c ∈ s.head?, p c = false) →
      (a ++ s).takeWhile p = a := by
    intro a s ha hs
    rw [List.takeWhile_append_of_pos ha]
    cases s with
    | nil => simp
    | cons c s => rw [List.takeWhile_cons_of_neg (by simp [hs c rfl]), List.append_nil]
  have hab : a = b := by rw [← hrun a s ha hs, h, hrun b t hb ht]
  exact ⟨hab, List.append_cancel_left (hab ▸ h)⟩

/-- What may follow a value. -/
def EndsValue (s : List Char) : Prop :=
  ∀ c ∈ s.head?, c ∈ [',', ']', '\n']

theorem numeral_append_inj (ha : IsNumeral a) (hb : IsNumeral b) (hs : EndsValue s)
    (ht : EndsValue t) (h : a ++ s = b ++ t) : a = b ∧ s = t := by
  have hend : ∀ c ∈ [',', ']', '\n'], isNumeralChar c = false := by
    simp [isNumeralChar]
  exact eq_of_append_eq ha.2 hb.2 (fun c hc => hend c (hs c hc)) (fun c hc => hend c (ht c hc)) h

theorem endsValue_itemChars (indent : Nat) (items : List Json) (s : List Char) :
    EndsValue (itemChars indent items ++ s) := by
  cases items <;> simp [itemChars, EndsValue]

/-! ## Keys -/

theorem exists_cons_quoteChars (cs : List Char) : ∃ rest, quoteChars cs = '"' :: rest :=
  ⟨_, quoteChars_eq cs⟩

/-- A bare key does not start with a quote. -/
theorem append_ne_quoteChars_append (ha : isAttributeName a = true) :
    a ++ s ≠ quoteChars b ++ t := by
  obtain ⟨rest, hquote⟩ := exists_cons_quoteChars b
  cases a with
  | nil => cases ha
  | cons c cs =>
    intro h
    rw [hquote] at h
    have hc : c = '"' := (List.cons.inj h).1
    exact absurd (isAttributeChar_of_mem ha List.mem_cons_self) (by simp [hc]; decide)

theorem keyChars_append_inj (h : keyChars a ++ ' ' :: s = keyChars b ++ ' ' :: t) :
    a = b ∧ s = t := by
  unfold keyChars at h
  split_ifs at h with ha hb hb
  · obtain ⟨hkey, hrest⟩ := eq_of_append_eq (fun _ => isAttributeChar_of_mem ha)
      (fun _ => isAttributeChar_of_mem hb) (by simp; decide) (by simp; decide) h
    exact ⟨hkey, (List.cons.inj hrest).2⟩
  · exact absurd h (append_ne_quoteChars_append ha)
  · exact absurd h.symm (append_ne_quoteChars_append hb)
  · obtain ⟨hkey, hrest⟩ := quoteChars_append_inj h
    exact ⟨hkey, (List.cons.inj hrest).2⟩

/-- A key does not start with a blank. -/
theorem ne_of_mem_head?_keyChars (a s : List Char) : ∀ c ∈ (keyChars a ++ s).head?, c ≠ ' ' := by
  unfold keyChars
  split_ifs with ha
  · cases a with
    | nil => cases ha
    | cons c cs =>
      rintro _ ⟨rfl⟩ rfl
      exact absurd (isAttributeChar_of_mem ha List.mem_cons_self) (by decide)
  · obtain ⟨rest, hquote⟩ := exists_cons_quoteChars a
    rw [hquote]
    simp

/-! ## Kinds -/

/-- The kinds of values that their first character tells. -/
inductive Kind where
  | null | true | false | number | text | array | object
deriving DecidableEq

def kind : Json → Kind
  | .null => .null
  | .bool true => .true
  | .bool false => .false
  | .num _ => .number
  | .str _ => .text
  | .arr _ => .array
  | .obj _ => .object

/-- The kind of value that starts with a character. -/
def kindOf? (c : Char) : Option Kind :=
  if isNumeralChar c then some .number
  else if c = 'n' then some .null
  else if c = 't' then some .true
  else if c = 'f' then some .false
  else if c = '"' then some .text
  else if c = '[' then some .array
  else if c = '{' then some .object
  else none

theorem kindOf?_head? (hn : Number.ToldByText numbers) {v : Json} (hv : v.AllNumbers numbers)
    (indent : Nat) (s : List Char) :
    (chars indent v ++ s).head?.bind kindOf? = some (kind v) := by
  match v with
  | .null | .bool true | .bool false | .arr [] | .obj [] =>
    rw [chars]
    rfl
  | .num n =>
    obtain ⟨hne, hall⟩ := Number.isNumeral_chars (hn.finite n hv)
    obtain ⟨c, cs, hchars⟩ := List.exists_cons_of_ne_nil hne
    have hc : isNumeralChar c = true := hall c (hchars ▸ List.mem_cons_self)
    rw [chars, hchars]
    show kindOf? c = _
    rw [kindOf?, if_pos hc]
    rfl
  | .str s' =>
    obtain ⟨rest, hquote⟩ := exists_cons_quoteChars s'.toList
    rw [chars, hquote]
    rfl
  | .arr (v :: rest) =>
    rw [chars]
    rfl
  | .obj (m :: rest) =>
    rw [chars]
    rfl

theorem kind_eq (hn : Number.ToldByText numbers) {v w : Json} (hv : v.AllNumbers numbers)
    (hw : w.AllNumbers numbers) (h : chars indent v ++ s = chars indent w ++ t) :
    kind v = kind w := by
  have hv := kindOf?_head? hn hv indent s
  rw [h, kindOf?_head? hn hw] at hv
  exact (Option.some.inj hv).symm

/-- A value does not start with the bracket that closes an array. -/
theorem chars_append_ne (hn : Number.ToldByText numbers) {v : Json} (hv : v.AllNumbers numbers) :
    chars indent v ++ s ≠ ']' :: t := by
  intro h
  have hv := kindOf?_head? hn hv indent s
  rw [h] at hv
  cases hv

/-! ## Values -/

/-- Indents of different depth are told by the character that follows them. -/
theorem pad_append_inj {m n : Nat} (hs : ∀ c ∈ s.head?, c ≠ ' ') (ht : ∀ c ∈ t.head?, c ≠ ' ')
    (h : pad m ++ s = pad n ++ t) : m = n ∧ s = t := by
  have hblank (n : Nat) : ∀ c ∈ pad n, (c == ' ') = true := fun c hc =>
    beq_iff_eq.2 (List.eq_of_mem_replicate hc)
  obtain ⟨hpad, hrest⟩ := eq_of_append_eq (hblank m) (hblank n)
    (fun c hc => beq_false_of_ne (hs c hc)) (fun c hc => beq_false_of_ne (ht c hc)) h
  have hlength := congrArg List.length hpad
  simp only [pad, List.length_replicate] at hlength
  exact ⟨hlength, hrest⟩

theorem entryChars_cons_append (indent : Nat) (k : String) (v : Json)
    (rest : List (String × Json)) (s : List Char) :
    entryChars indent ((k, v) :: rest) ++ s =
      pad (indent + 2) ++ (keyChars k.toList ++ ' ' :: (['=', ' '] ++
        (chars (indent + 2) v ++ '\n' :: (entryChars indent rest ++ s)))) := by
  simp [entryChars]

/-- The line of an entry is further right than the bracket that closes its object. -/
theorem entryChars_nil_append_ne (k : String) (v : Json) (rest : List (String × Json)) :
    entryChars indent [] ++ s ≠ entryChars indent ((k, v) :: rest) ++ t := by
  intro h
  rw [entryChars_cons_append, entryChars, List.append_assoc] at h
  obtain ⟨hindent, -⟩ := pad_append_inj (by simp) (ne_of_mem_head?_keyChars _ _) h
  omega

mutual

/-- Two expressions that start a text alike are of the same value and end at the same place. -/
theorem chars_append_inj (hn : Number.ToldByText numbers) : (v : Json) → ∀ {w : Json} {indent : Nat}
    {s t : List Char}, v.AllNumbers numbers → w.AllNumbers numbers → EndsValue s → EndsValue t →
    chars indent v ++ s = chars indent w ++ t → v = w ∧ s = t
  | .null, w, _, _, _, hv, hw, _, _, h
  | .bool true, w, _, _, _, hv, hw, _, _, h
  | .bool false, w, _, _, _, hv, hw, _, _, h => by
    have hkind := kind_eq hn hv hw h
    rcases w with _ | (_ | _) | _ | _ | _ | _ <;> cases hkind
    exact ⟨rfl, List.append_cancel_left h⟩
  | .num n, w, _, _, _, hv, hw, hs, ht, h => by
    have hkind := kind_eq hn hv hw h
    rcases w with _ | (_ | _) | m | _ | _ | _ <;> cases hkind
    rw [chars, chars] at h
    obtain ⟨hchars, hrest⟩ := numeral_append_inj (Number.isNumeral_chars (hn.finite n hv))
      (Number.isNumeral_chars (hn.finite m hw)) hs ht h
    exact ⟨congrArg Json.num (hn.injective n m hv hw (congrArg String.ofList hchars)), hrest⟩
  | .str a, w, _, _, _, hv, hw, _, _, h => by
    have hkind := kind_eq hn hv hw h
    rcases w with _ | (_ | _) | _ | b | _ | _ <;> cases hkind
    rw [chars, chars] at h
    obtain ⟨htext, hrest⟩ := quoteChars_append_inj h
    exact ⟨congrArg Json.str (String.toList_injective htext), hrest⟩
  | .arr [], w, _, _, _, hv, hw, _, _, h => by
    have hkind := kind_eq hn hv hw h
    rcases w with _ | (_ | _) | _ | _ | (_ | ⟨w, items⟩) | _ <;> cases hkind
    · exact ⟨rfl, List.append_cancel_left h⟩
    · rw [chars, chars, List.cons_append, List.cons_append, List.append_assoc] at h
      exact absurd (List.cons.inj h).2.symm (chars_append_ne hn hw.1)
  | .arr (v :: rest), w, _, s, t, hv, hw, _, _, h => by
    have hkind := kind_eq hn hv hw h
    rcases w with _ | (_ | _) | _ | _ | (_ | ⟨w, items⟩) | _ <;> cases hkind
    · rw [chars, chars, List.cons_append, List.cons_append, List.append_assoc] at h
      exact absurd (List.cons.inj h).2 (chars_append_ne hn hv.1)
    · rw [chars, chars, List.cons_append, List.cons_append, List.append_assoc,
        List.append_assoc] at h
      obtain ⟨rfl, hrest⟩ := chars_append_inj hn v hv.1 hw.1 (endsValue_itemChars _ rest s)
        (endsValue_itemChars _ items t) (List.cons.inj h).2
      obtain ⟨rfl, hend⟩ := itemChars_append_inj hn rest hv.2 hw.2 hrest
      exact ⟨rfl, hend⟩
  | .obj [], w, _, _, _, hv, hw, _, _, h => by
    have hkind := kind_eq hn hv hw h
    rcases w with _ | (_ | _) | _ | _ | _ | (_ | ⟨w, members⟩) <;> cases hkind
    · exact ⟨rfl, List.append_cancel_left h⟩
    · rw [chars, chars] at h
      cases h
  | .obj (m :: rest), w, _, _, _, hv, hw, _, _, h => by
    have hkind := kind_eq hn hv hw h
    rcases w with _ | (_ | _) | _ | _ | _ | (_ | ⟨w, members⟩) <;> cases hkind
    · rw [chars, chars] at h
      cases h
    · rw [chars, chars] at h
      have hopen : ['{', '\n'] ++ _ = ['{', '\n'] ++ _ := h
      obtain ⟨hmembers, hend⟩ := entryChars_append_inj hn (m :: rest) hv hw
        (List.append_cancel_left hopen)
      exact ⟨congrArg Json.obj hmembers, hend⟩

theorem itemChars_append_inj (hn : Number.ToldByText numbers) : (vs : List Json) →
    ∀ {ws : List Json} {indent : Nat} {s t : List Char}, AllNumbersItems numbers vs →
    AllNumbersItems numbers ws → itemChars indent vs ++ s = itemChars indent ws ++ t →
    vs = ws ∧ s = t
  | [], [], _, _, _, _, _, h => ⟨rfl, List.append_cancel_left h⟩
  | [], w :: ws, _, _, _, _, _, h => by
    rw [itemChars, itemChars] at h
    cases h
  | v :: vs, [], _, _, _, _, _, h => by
    rw [itemChars, itemChars] at h
    cases h
  | v :: vs, w :: ws, _, s, t, hv, hw, h => by
    rw [itemChars, itemChars, List.append_assoc, List.append_assoc] at h
    have hcomma : [',', ' '] ++ _ = [',', ' '] ++ _ := h
    obtain ⟨rfl, hrest⟩ := chars_append_inj hn v hv.1 hw.1 (endsValue_itemChars _ vs s)
      (endsValue_itemChars _ ws t) (List.append_cancel_left hcomma)
    obtain ⟨rfl, hend⟩ := itemChars_append_inj hn vs hv.2 hw.2 hrest
    exact ⟨rfl, hend⟩

theorem entryChars_append_inj (hn : Number.ToldByText numbers) : (ms : List (String × Json)) →
    ∀ {ns : List (String × Json)} {indent : Nat} {s t : List Char},
    AllNumbersMembers numbers ms → AllNumbersMembers numbers ns →
    entryChars indent ms ++ s = entryChars indent ns ++ t → ms = ns ∧ s = t
  | [], [], _, _, _, _, _, h => ⟨rfl, List.append_cancel_left h⟩
  | [], (l, w) :: ns, _, _, _, _, _, h => absurd h (entryChars_nil_append_ne l w ns)
  | (k, v) :: ms, [], _, _, _, _, _, h => absurd h.symm (entryChars_nil_append_ne k v ms)
  | (k, v) :: ms, (l, w) :: ns, _, _, _, hv, hw, h => by
    rw [entryChars_cons_append, entryChars_cons_append] at h
    obtain ⟨hkey, hafter⟩ := keyChars_append_inj (List.append_cancel_left h)
    obtain ⟨rfl, hrest⟩ := chars_append_inj hn v hv.1 hw.1 (by simp [EndsValue])
      (by simp [EndsValue]) (List.append_cancel_left hafter)
    obtain ⟨rfl, hend⟩ := entryChars_append_inj hn ms hv.2 hw.2 (List.cons.inj hrest).2
    exact ⟨by rw [String.toList_injective hkey], hend⟩

end

end Hcl

end CloudGraph

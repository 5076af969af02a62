import CloudGraph.Proofs.Generate.Values
import CloudGraph.Proofs.Json.Spelling

/-!
# Escapes of template openings

An opening of a template is a dollar or percent sign before a brace. `escapeOpenings` doubles the
sign, and `undoOpenings` reads the result from left to right: a doubled sign before a brace stands
for an opening, and a single one is an opening that takes effect.

* **One character at a time** (`escapeOpenings_cons`). A sign is doubled just if a brace comes next,
  and doubling keeps the first character of a text. So what is doubled does not depend on what
  stands before it, and dollar and percent signs may be doubled one after the other
  (`escapeOpenings_eq_doubleBefore`).
* **Undoing** (`undoOpenings_escapeOpenings`). No opening takes effect in an escaped text, not even
  where signs come in a row: the sign before a doubled one is followed by a sign, not by a brace.
* **Quotes** (`quoteChars_eq`). The escapes of JSON neither make an opening nor break one, so a
  quoted text is that of the escaped one, and it tells where it ends (`quoteChars_append_inj`).
-/

namespace CloudGraph

namespace Json

theorem escapeChar_ne_nil (c : Char) : escapeChar c ≠ [] := by
  unfold escapeChar
  split_ifs <;> simp

/-- A quoted text is told from what follows it. -/
theorem quoteChars_append_inj {s t a b : List Char}
    (h : quoteChars s ++ a = quoteChars t ++ b) : s = t ∧ a = b := by
  rw [Raw.quoteChars_append, Raw.quoteChars_append] at h
  have hread := congrArg Raw.textFrom (List.cons.inj h).2
  rw [← String.toList_ofList (l := s), ← String.toList_ofList (l := t), Raw.textFrom_escaped,
    Raw.textFrom_escaped] at hread
  obtain ⟨htext, hrest⟩ := Prod.mk.inj (Option.some.inj hread)
  exact ⟨String.ofList_injective (Option.some.inj htext), hrest⟩

end Json

namespace Hcl

variable {c : Char} {cs s t : List Char}

/-! ## Doubling -/

/-- Whether a character opens a template in front of a text. -/
def Opens (c : Char) (cs : List Char) : Prop :=
  (c = '$' ∨ c = '%') ∧ cs.head? = some '{'

instance (c : Char) (cs : List Char) : Decidable (Opens c cs) :=
  inferInstanceAs (Decidable (_ ∧ _))

theorem escapeOpenings_cons (c : Char) (cs : List Char) :
    escapeOpenings (c :: cs) = (if Opens c cs then [c, c] else [c]) ++ escapeOpenings cs := by
  unfold Opens
  rcases cs with _ | ⟨d, cs⟩
  · simp [escapeOpenings]
  · by_cases hd : d = '{'
    · subst hd
      by_cases hdollar : c = '$'
      · simp [hdollar, escapeOpenings]
      · by_cases hpercent : c = '%'
        · simp [hpercent, escapeOpenings]
        · simp [hdollar, hpercent, escapeOpenings]
    · rw [escapeOpenings.eq_4 _ _ (by simp [hd]) (by simp [hd])]
      simp [hd]

theorem head?_escapeOpenings (cs : List Char) : (escapeOpenings cs).head? = cs.head? := by
  cases cs with
  | nil => rfl
  | cons c cs =>
    rw [escapeOpenings_cons]
    split_ifs <;> rfl

theorem escapeOpenings_append (s : List Char) (ht : t.head? ≠ some '{') :
    escapeOpenings (s ++ t) = escapeOpenings s ++ escapeOpenings t := by
  induction s with
  | nil => rfl
  | cons c s ih =>
    have hopens : Opens c (s ++ t) ↔ Opens c s := by
      unfold Opens
      cases s <;> simp [ht]
    rw [List.cons_append, escapeOpenings_cons, escapeOpenings_cons, ih, List.append_assoc]
    simp only [hopens]

theorem escapeOpenings_append_of_forall (hs : ∀ c ∈ s, c ≠ '$' ∧ c ≠ '%') (t : List Char) :
    escapeOpenings (s ++ t) = s ++ escapeOpenings t := by
  induction s with
  | nil => rfl
  | cons c s ih =>
    obtain ⟨hc, hs⟩ := List.forall_mem_cons.1 hs
    have hopens : ¬ Opens c (s ++ t) := fun h => h.1.elim hc.1 hc.2
    rw [List.cons_append, escapeOpenings_cons, if_neg hopens, ih hs]
    rfl

/-- Double a sign wherever it stands before a brace. -/
def doubleBefore (sign : Char) : List Char → List Char
  | [] => []
  | c :: cs =>
    if c = sign ∧ cs.head? = some '{' then c :: c :: doubleBefore sign cs
    else c :: doubleBefore sign cs

theorem head?_doubleBefore (sign : Char) (cs : List Char) :
    (doubleBefore sign cs).head? = cs.head? := by
  cases cs with
  | nil => rfl
  | cons c cs =>
    unfold doubleBefore
    split_ifs <;> rfl

/-- Signs of the two kinds are doubled together or one kind after the other. -/
theorem escapeOpenings_eq_doubleBefore (cs : List Char) :
    escapeOpenings cs = doubleBefore '%' (doubleBefore '$' cs) := by
  induction cs with
  | nil => rfl
  | cons c cs ih =>
    have hhead := head?_doubleBefore '$' cs
    rw [escapeOpenings_cons, ih]
    unfold Opens
    by_cases hbrace : cs.head? = some '{'
    · by_cases hdollar : c = '$'
      · simp [hdollar, hbrace, doubleBefore]
      · simp only [hbrace, hdollar, hhead, doubleBefore, if_false, false_or, and_true]
        split_ifs <;> rfl
    · simp [hbrace, hhead, doubleBefore]

/-! ## Undoing -/

/-- Undo the doubling from left to right; none if an opening is met that is not doubled. -/
def undoOpenings : List Char → Option (List Char)
  | [] => some []
  | '$' :: '$' :: '{' :: cs => (undoOpenings cs).map ('$' :: '{' :: ·)
  | '%' :: '%' :: '{' :: cs => (undoOpenings cs).map ('%' :: '{' :: ·)
  | '$' :: '{' :: _ => none
  | '%' :: '{' :: _ => none
  | c :: cs => (undoOpenings cs).map (c :: ·)

/-- A character stands for itself, but for a sign before a brace or before itself and a brace. -/
theorem undoOpenings_cons
    (h : c = '$' ∨ c = '%' → cs.head? ≠ some '{' ∧ ∀ rest, cs ≠ c :: '{' :: rest) :
    undoOpenings (c :: cs) = (undoOpenings cs).map (c :: ·) := by
  refine undoOpenings.eq_6 c cs ?_ ?_ ?_ ?_ <;> rintro rest rfl rfl <;> simp at h

theorem undoOpenings_append_of_forall (hs : ∀ c ∈ s, c ≠ '$' ∧ c ≠ '%') (t : List Char) :
    undoOpenings (s ++ t) = (undoOpenings t).map (s ++ ·) := by
  induction s with
  | nil => simp
  | cons c s ih =>
    obtain ⟨hc, hs⟩ := List.forall_mem_cons.1 hs
    rw [List.cons_append, undoOpenings_cons fun h => absurd h (not_or.2 hc), ih hs, Option.map_map]
    rfl

/-- A text that makes no opening with what stands before it. -/
def Bars (t : List Char) : Prop :=
  ∀ d ∈ t.head?, d ∉ ['{', '$', '%']

theorem Bars.head?_eq (ht : Bars t) (h : (escapeOpenings cs ++ t).head? = some '{') :
    cs.head? = some '{' := by
  rw [List.head?_append, head?_escapeOpenings] at h
  cases cs with
  | nil => exact absurd (ht _ h) (by decide)
  | cons c cs => exact h

/-- Escaped text does not start with an opening. -/
theorem Bars.ne_opening (ht : Bars t) (hc : c = '$' ∨ c = '%') (cs rest : List Char) :
    escapeOpenings cs ++ t ≠ c :: '{' :: rest := by
  intro h
  cases cs with
  | nil =>
    have hhead : t.head? = some c := congrArg List.head? h
    exact ht c hhead (by simpa using .inr hc)
  | cons d cs =>
    rw [escapeOpenings_cons] at h
    split_ifs at h with hopens
    · -- the sign that opens is followed by its double
      have hbrace : d = '{' := (List.cons.inj (List.cons.inj h).2).1
      exact absurd hopens.1 (by simp [hbrace])
    · obtain ⟨rfl, hrest⟩ := List.cons.inj h
      exact hopens ⟨hc, ht.head?_eq (congrArg List.head? hrest)⟩

theorem undoOpenings_escapeOpenings_append (ht : Bars t) (cs : List Char) :
    undoOpenings (escapeOpenings cs ++ t) = (undoOpenings t).map (cs ++ ·) := by
  fun_induction escapeOpenings cs with
  | case1 => simp
  | case2 cs ih => simp [undoOpenings, ih, Function.comp_def]
  | case3 cs ih => simp [undoOpenings, ih, Function.comp_def]
  | case4 c cs hdollar hpercent ih =>
    have hplain : c = '$' ∨ c = '%' → (escapeOpenings cs ++ t).head? ≠ some '{' ∧
        ∀ rest, escapeOpenings cs ++ t ≠ c :: '{' :: rest := by
      refine fun hc => ⟨fun hbrace => ?_, ht.ne_opening hc cs⟩
      obtain ⟨rest, rfl⟩ := List.head?_eq_some_iff.1 (ht.head?_eq hbrace)
      exact hc.elim (fun hc => hdollar rest hc rfl) fun hc => hpercent rest hc rfl
    rw [List.cons_append, undoOpenings_cons hplain, ih, Option.map_map]
    rfl

theorem undoOpenings_escapeOpenings (cs : List Char) :
    undoOpenings (escapeOpenings cs) = some cs := by
  have h := undoOpenings_escapeOpenings_append (t := []) (by simp [Bars]) cs
  simpa [undoOpenings] using h

theorem escapeOpenings_injective : Function.Injective escapeOpenings := by
  intro s t h
  have hundo := congrArg undoOpenings h
  rw [undoOpenings_escapeOpenings, undoOpenings_escapeOpenings] at hundo
  exact Option.some.inj hundo

/-! ## Quotes -/

theorem escapeChar_of_mem_opening : ∀ c ∈ ['{', '$', '%'], Json.escapeChar c = [c] := by
  simp [Json.escapeChar]

theorem head?_flatMap_escapeChar (cs : List Char) :
    (cs.flatMap Json.escapeChar).head? = some '{' ↔ cs.head? = some '{' := by
  rcases cs with _ | ⟨c, cs⟩
  · simp
  · rw [List.flatMap_cons, List.head?_cons, Option.some_inj]
    constructor
    · intro h
      obtain ⟨d, ds, hescape⟩ := List.exists_cons_of_ne_nil (Json.escapeChar_ne_nil c)
      rw [hescape, List.cons_append, List.head?_cons, Option.some_inj] at h
      exact (Json.eq_of_mem_escapeChar (by decide) (hescape ▸ h ▸ List.mem_cons_self)).1.symm
    · rintro rfl
      rfl

/-- A text may be escaped before it is written as in JSON. -/
theorem escapeOpenings_flatMap_escapeChar (cs : List Char) :
    escapeOpenings (cs.flatMap Json.escapeChar) = (escapeOpenings cs).flatMap Json.escapeChar := by
  induction cs with
  | nil => rfl
  | cons c cs ih =>
    by_cases hc : c = '$' ∨ c = '%'
    · have hplain : Json.escapeChar c = [c] :=
        escapeChar_of_mem_opening c (by simpa using .inr hc)
      have hopens : Opens c (cs.flatMap Json.escapeChar) ↔ Opens c cs :=
        and_congr_right' (head?_flatMap_escapeChar cs)
      rw [List.flatMap_cons, hplain, List.singleton_append, escapeOpenings_cons,
        escapeOpenings_cons, ih, List.flatMap_append]
      simp only [hopens]
      split_ifs <;> simp [hplain]
    · have hsigns : ∀ d ∈ Json.escapeChar c, d ≠ '$' ∧ d ≠ '%' := fun d hd =>
        ⟨fun h => hc (.inl ((Json.eq_of_mem_escapeChar (by simp [h]) hd).1.symm.trans h)),
          fun h => hc (.inr ((Json.eq_of_mem_escapeChar (by simp [h]) hd).1.symm.trans h))⟩
      rw [List.flatMap_cons, escapeOpenings_append_of_forall hsigns, ih, escapeOpenings_cons,
        if_neg fun h => hc h.1, List.singleton_append, List.flatMap_cons]

/-- A quoted text is the text of JSON with its openings escaped first. -/
theorem quoteChars_eq (cs : List Char) : quoteChars cs = Json.quoteChars (escapeOpenings cs) := by
  unfold quoteChars Json.quoteChars
  rw [escapeOpenings_append _ (by simp), escapeOpenings_cons, if_neg (by simp [Opens]),
    escapeOpenings_flatMap_escapeChar]
  rfl

theorem undoOpenings_quoteChars_append (cs rest : List Char) :
    undoOpenings (quoteChars cs ++ rest) =
      (undoOpenings rest).map (Json.quoteChars cs ++ ·) := by
  have hclose : undoOpenings ('"' :: rest) = (undoOpenings rest).map ('"' :: ·) :=
    undoOpenings_cons (by simp)
  have hquote : Bars ('"' :: rest) := by simp [Bars]
  unfold quoteChars Json.quoteChars
  rw [escapeOpenings_append _ (by simp), List.append_assoc]
  show undoOpenings (escapeOpenings _ ++ '"' :: rest) = _
  rw [undoOpenings_escapeOpenings_append hquote, hclose, Option.map_map]
  congr 1
  funext plain
  simp

theorem quoteChars_append_inj {a b : List Char} (h : quoteChars s ++ a = quoteChars t ++ b) :
    s = t ∧ a = b := by
  rw [quoteChars_eq, quoteChars_eq] at h
  obtain ⟨hescaped, hrest⟩ := Json.quoteChars_append_inj h
  exact ⟨escapeOpenings_injective hescaped, hrest⟩

end Hcl

end CloudGraph

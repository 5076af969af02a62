import CloudGraph.Proofs.Generate.Expressions.Escapes

/-!
# The texts in an expression

An expression is put together from quoted texts and from bare parts, without a quote or a sign. The
quoted texts are the texts of the value and those of its keys that are no attribute names
(`quotedTexts`), in their order. So what holds of bare parts and of quoted texts, and of two parts
together, holds of every expression (`PartWise.chars`, by induction over the value).

`literals` takes the quoted texts out of an expression whose escapes have been undone. Each part is
passed by both readers whatever follows it (`Quotes`), so each text is read as it was.
-/

namespace CloudGraph

/-- A text that is read leaves less than there was. -/
theorem Raw.length_le_of_textFrom {cs rest : List Char} {s : Option String}
    (h : Raw.textFrom cs = some (s, rest)) : rest.length ≤ cs.length := by
  obtain ⟨t, ⟨units, -, rfl⟩, hcs⟩ := Raw.exists_text_of_textFrom h
  have hlength := congrArg List.length hcs
  simp at hlength
  omega

namespace Hcl

/-! ## Literals -/

/-- The quoted texts, with the escapes of JSON undone; none if one of them cannot be read. -/
def literals : List Char → Option (List String)
  | [] => some []
  | c :: cs =>
    if c = '"' then
      match _h : Raw.textFrom cs with
      | some (some s, rest) => (literals rest).map (s :: ·)
      | _ => none
    else literals cs
termination_by cs => cs.length
decreasing_by
  · exact Nat.lt_succ_of_le (Raw.length_le_of_textFrom _h)
  · exact Nat.lt_succ_self _

theorem literals_append_of_notMem {s : List Char} (hs : '"' ∉ s) (t : List Char) :
    literals (s ++ t) = literals t := by
  induction s with
  | nil => rfl
  | cons c s ih =>
    obtain ⟨hc, hs⟩ := List.ne_and_not_mem_of_not_mem_cons hs
    rw [List.cons_append, literals, if_neg hc.symm, ih hs]

theorem literals_quoteChars_append (s : String) (rest : List Char) :
    literals (Json.quoteChars s.toList ++ rest) = (literals rest).map (s :: ·) := by
  rw [Raw.quoteChars_append, literals, if_pos rfl]
  split
  next s' rest' h =>
    cases h.symm.trans (Raw.textFrom_escaped s rest)
    rfl
  next hnone => exact absurd (Raw.textFrom_escaped s rest) (hnone s rest)

/-! ## Texts of a value -/

/-- A key that is an attribute name is written without quotes. -/
def keyTexts (key : String) : List String :=
  if isAttributeName key.toList then [] else [key]

mutual

/-- The texts of a value that are written in quotes, in their order. -/
def quotedTexts : Json → List String
  | .str s => [s]
  | .arr items => itemTexts items
  | .obj entries => entryTexts entries
  | _ => []

def itemTexts : List Json → List String
  | [] => []
  | v :: rest => quotedTexts v ++ itemTexts rest

def entryTexts : List (String × Json) → List String
  | [] => []
  | (k, v) :: rest => keyTexts k ++ (quotedTexts v ++ entryTexts rest)

end

/-! ## Parts of an expression -/

/-- What holds of bare parts and of quoted texts, and of two parts together. -/
structure PartWise (P : List Char → List String → Prop) : Prop where
  bare : ∀ part : List Char, (∀ c ∈ part, c ∉ ['"', '$', '%']) → P part []
  quoted : ∀ s : String, P (quoteChars s.toList) [s]
  append : ∀ {part part' texts texts'}, P part texts → P part' texts' →
    P (part ++ part') (texts ++ texts')

theorem forall_mem_pad (columns : Nat) : ∀ c ∈ pad columns, c ∉ ['"', '$', '%'] := by
  intro c hc
  rw [List.eq_of_mem_replicate hc]
  decide

namespace PartWise

variable {P : List Char → List String → Prop} {part : List Char} {texts : List String}

theorem after (h : PartWise P) {s : List Char} (hs : ∀ c ∈ s, c ∉ ['"', '$', '%'])
    (hpart : P part texts) : P (s ++ part) texts :=
  h.append (h.bare s hs) hpart

theorem key (h : PartWise P) (key : String) : P (keyChars key.toList) (keyTexts key) := by
  unfold keyChars keyTexts
  split_ifs with hname
  · refine h.bare _ fun c hc hmark => ?_
    have hnot : ∀ c ∈ ['"', '$', '%'], isAttributeChar c = false := by simp [isAttributeChar]
    exact Bool.false_ne_true ((hnot c hmark).symm.trans (isAttributeChar_of_mem hname hc))
  · exact h.quoted key

mutual

theorem chars (h : PartWise P) (indent : Nat) : (v : Json) → P (Hcl.chars indent v) (quotedTexts v)
  | .null | .bool true | .bool false | .arr [] | .obj [] => by
    rw [Hcl.chars]
    exact h.bare _ (by simp)
  | .num n => by
    rw [Hcl.chars]
    refine h.bare _ fun c hc hmark => ?_
    have hnot : ∀ c ∈ ['"', '$', '%'],
        Decimal.isNumeralChar c = false ∧ c ∉ jsonStyle.notANumber.toList := by
      simp [Decimal.isNumeralChar, jsonStyle]
    exact n.notMem_chars (hnot c hmark).1 (hnot c hmark).2 hc
  | .str s => by
    rw [Hcl.chars]
    exact h.quoted s
  | .arr (v :: rest) => by
    rw [Hcl.chars]
    exact h.append (h.after (s := ['[']) (by simp) (h.chars indent v)) (h.itemChars indent rest)
  | .obj (m :: rest) => by
    rw [Hcl.chars]
    exact h.after (s := ['{', '\n']) (by simp) (h.entryChars indent (m :: rest))

theorem itemChars (h : PartWise P) (indent : Nat) :
    (items : List Json) → P (Hcl.itemChars indent items) (itemTexts items)
  | [] => by
    rw [Hcl.itemChars]
    exact h.bare _ (by simp)
  | v :: rest => by
    rw [Hcl.itemChars]
    exact h.append (h.after (s := [',', ' ']) (by simp) (h.chars indent v))
      (h.itemChars indent rest)

theorem entryChars (h : PartWise P) (indent : Nat) :
    (entries : List (String × Json)) → P (Hcl.entryChars indent entries) (entryTexts entries)
  | [] => by
    rw [Hcl.entryChars]
    exact h.after (forall_mem_pad indent) (h.bare _ (by simp))
  | (k, v) :: rest => by
    rw [Hcl.entryChars]
    have hvalue := h.after (s := [' ', '=', ' ']) (by simp) (h.chars (indent + 2) v)
    have hrest := h.after (s := ['\n']) (by simp) (h.entryChars indent rest)
    have hentry := h.after (forall_mem_pad (indent + 2))
      (h.append (h.key k) (h.append hvalue hrest))
    simpa [entryTexts] using hentry

end

end PartWise

/-! ## Reading -/

variable {part part' : List Char} {texts texts' : List String}

/-- No opening takes effect in a part, whatever follows it, and once its escapes are undone it has
some texts in quotes. -/
def Quotes (part : List Char) (texts : List String) : Prop :=
  ∃ plain : List Char,
    (∀ rest, undoOpenings (part ++ rest) = (undoOpenings rest).map (plain ++ ·)) ∧
      ∀ rest, literals (plain ++ rest) = (literals rest).map (texts ++ ·)

theorem Quotes.append (h : Quotes part texts) (h' : Quotes part' texts') :
    Quotes (part ++ part') (texts ++ texts') := by
  obtain ⟨plain, hundo, hread⟩ := h
  obtain ⟨plain', hundo', hread'⟩ := h'
  refine ⟨plain ++ plain', fun rest => ?_, fun rest => ?_⟩
  · rw [List.append_assoc, hundo, hundo', Option.map_map]
    simp [Function.comp_def]
  · rw [List.append_assoc, hread, hread', Option.map_map]
    simp [Function.comp_def]

/-- A part without a quote or a sign. -/
theorem quotes_of_forall (h : ∀ c ∈ part, c ∉ ['"', '$', '%']) : Quotes part [] := by
  have hsigns : ∀ c ∈ part, c ≠ '$' ∧ c ≠ '%' := fun c hc => by
    have hnot := h c hc
    simp only [List.mem_cons, not_or] at hnot
    exact ⟨hnot.2.1, hnot.2.2.1⟩
  have hquote : '"' ∉ part := fun hc => h _ hc (by decide)
  refine ⟨part, undoOpenings_append_of_forall hsigns, fun rest => ?_⟩
  rw [literals_append_of_notMem hquote]
  simp

theorem quotes_quoteChars (s : String) : Quotes (quoteChars s.toList) [s] :=
  ⟨Json.quoteChars s.toList, undoOpenings_quoteChars_append s.toList,
    literals_quoteChars_append s⟩

theorem partWise_quotes : PartWise Quotes where
  bare _ := quotes_of_forall
  quoted := quotes_quoteChars
  append := Quotes.append

/-- What is read in an expression are the texts of its value. -/
theorem exists_literals_text (indent : Nat) (v : Json) :
    ∃ plain, undoOpenings (text indent v).toList = some plain ∧
      literals plain = some (quotedTexts v) := by
  obtain ⟨plain, hundo, hread⟩ := partWise_quotes.chars indent v
  refine ⟨plain, ?_, ?_⟩
  · simpa [text, undoOpenings] using hundo []
  · simpa [literals] using hread []

end Hcl

end CloudGraph

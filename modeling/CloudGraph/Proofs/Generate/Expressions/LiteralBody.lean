import CloudGraph.Proofs.Generate.Expressions.Literals
import CloudGraph.Proofs.Json.Grammar
import Mathlib.Data.List.Forall2

/-!
# Literals of HCL

In a quoted literal of HCL a backslash begins an escape: a line break, a carriage return, a tab, a
quote or a backslash by its letter (`escapeLetters`), and any character by its code in four
hexadecimal digits. A quote or a line break does not stand by itself. A text is quoted as in JSON,
and JSON has two letters more, for the backspace and the form feed.

**Theorem (`literals_wellFormed_iff`).** The literals of an expression are those of the texts that
its value has in quotes. Each of them is one of HCL, unless its text has a backspace or a form feed.

* *One character* (`body_escapeChar_append_iff`). What is written for a character is an escape or
  the character itself, so that a body goes on behind it just as it was.
* *Whole texts* (`body_flatMap_escapeChar_iff`). An induction over the text.
* *Expressions* (`partWise_delimits`). A body has no quote that no backslash takes, so a reader that
  knows nothing of the value finds the end of each literal.
-/

namespace CloudGraph

namespace Hcl

/-! ## Bodies of literals -/

/-- The letters that name a character behind a backslash. -/
def escapeLetters : List Char := ['n', 'r', 't', '"', '\\']

/-- What stands between the quotes of a literal, where `letters` are those of its escapes. -/
inductive LiteralBody (letters : List Char) : List Char → Prop
  | nil : LiteralBody letters []
  | plain {c : Char} {cs : List Char} (h : c ∉ ['\\', '"', '\n']) (hcs : LiteralBody letters cs) :
    LiteralBody letters (c :: cs)
  | letter {c : Char} {cs : List Char} (h : c ∈ letters) (hcs : LiteralBody letters cs) :
    LiteralBody letters ('\\' :: c :: cs)
  | code {a b c d : Char} {cs : List Char} (h : ∀ x ∈ [a, b, c, d], Json.IsHexDigit x)
    (hcs : LiteralBody letters cs) : LiteralBody letters ('\\' :: 'u' :: a :: b :: c :: d :: cs)

variable {letters cs : List Char} {c : Char}

theorem body_plain_iff (h : c ∉ ['\\', '"', '\n']) :
    LiteralBody letters (c :: cs) ↔ LiteralBody letters cs := by
  refine ⟨fun hbody => ?_, .plain h⟩
  cases hbody with
  | plain _ hcs => exact hcs
  | letter => exact absurd h (by decide)
  | code => exact absurd h (by decide)

theorem body_letter_iff (h : c ≠ 'u') :
    LiteralBody letters ('\\' :: c :: cs) ↔ c ∈ letters ∧ LiteralBody letters cs := by
  refine ⟨fun hbody => ?_, fun ⟨hc, hcs⟩ => .letter hc hcs⟩
  cases hbody with
  | plain hbackslash => exact absurd hbackslash (by decide)
  | letter hc hcs => exact ⟨hc, hcs⟩
  | code => exact absurd rfl h

theorem body_code_iff {a b c d : Char} (hu : 'u' ∉ letters)
    (h : ∀ x ∈ [a, b, c, d], Json.IsHexDigit x) :
    LiteralBody letters ('\\' :: 'u' :: a :: b :: c :: d :: cs) ↔ LiteralBody letters cs := by
  refine ⟨fun hbody => ?_, .code h⟩
  cases hbody with
  | plain hbackslash => exact absurd hbackslash (by decide)
  | letter hc => exact absurd hc hu
  | code _ hcs => exact hcs

/-! ## Escaped texts -/

theorem isHexDigit_hexDigit : ∀ n < 16, Json.IsHexDigit (Text.hexDigit n) := by
  unfold Json.IsHexDigit
  decide

/-- A body goes on behind a character as it was, if its letters have a name for the character. -/
theorem body_escapeChar_append_iff (hletters : escapeLetters ⊆ letters) (hu : 'u' ∉ letters) :
    LiteralBody letters (Json.escapeChar c ++ cs) ↔
      ((c = '\x08' → 'b' ∈ letters) ∧ (c = '\x0c' → 'f' ∈ letters)) ∧ LiteralBody letters cs := by
  have hnamed {l : Char} (hl : l ∈ escapeLetters) :
      LiteralBody letters ('\\' :: l :: cs) ↔ LiteralBody letters cs := by
    have hne : l ≠ 'u' := by
      rintro rfl
      exact absurd hl (by decide)
    exact (body_letter_iff hne).trans (and_iff_right (hletters hl))
  unfold Json.escapeChar
  split_ifs with hquote hbackslash hbackspace hfeed hnewline hreturn htab hcontrol
  · subst hquote
    simpa using hnamed (by decide)
  · subst hbackslash
    simpa using hnamed (by decide)
  · subst hbackspace
    simpa using body_letter_iff (by decide)
  · subst hfeed
    simpa using body_letter_iff (by decide)
  · subst hnewline
    simpa using hnamed (by decide)
  · subst hreturn
    simpa using hnamed (by decide)
  · subst htab
    simpa using hnamed (by decide)
  · have hdigits : ∀ x ∈ Text.hexDigits 4 c.toNat, Json.IsHexDigit x := fun x hx => by
      obtain ⟨d, hd, rfl⟩ := Text.exists_of_mem_hexDigits hx
      exact isHexDigit_hexDigit d hd
    have hcode : LiteralBody letters ('\\' :: 'u' :: Text.hexDigits 4 c.toNat ++ cs) ↔
        LiteralBody letters cs := body_code_iff hu hdigits
    rw [hcode]
    simp [hbackspace, hfeed]
  · simpa [hbackspace, hfeed] using body_plain_iff (by simp [hquote, hbackslash, hnewline])

theorem body_flatMap_escapeChar_iff (hletters : escapeLetters ⊆ letters) (hu : 'u' ∉ letters) :
    LiteralBody letters (cs.flatMap Json.escapeChar) ↔
      ('\x08' ∈ cs → 'b' ∈ letters) ∧ ('\x0c' ∈ cs → 'f' ∈ letters) := by
  induction cs with
  | nil => simpa using LiteralBody.nil
  | cons c cs ih =>
    rw [List.flatMap_cons, body_escapeChar_append_iff hletters hu, ih]
    simp only [List.mem_cons, or_imp, eq_comm]
    tauto

/-! ## Literals of an expression -/

/-- The bodies of the literals of a text. A backslash takes the next character with it, and the
first quote that none takes ends a literal. What was read of an open literal is kept. -/
def bodiesFrom : Option (List Char) → List Char → Option (List (List Char))
  | none, [] => some []
  | some _, [] => none
  | none, c :: cs => if c = '"' then bodiesFrom (some []) cs else bodiesFrom none cs
  | some body, '\\' :: c :: cs => bodiesFrom (some (body ++ ['\\', c])) cs
  | some body, c :: cs =>
    if c = '"' then (bodiesFrom none cs).map (body :: ·) else bodiesFrom (some (body ++ [c])) cs

def bodies (text : List Char) : Option (List (List Char)) :=
  bodiesFrom none text

attribute [local simp] bodiesFrom

theorem bodiesFrom_none_append (h : '"' ∉ cs) (rest : List Char) :
    bodiesFrom none (cs ++ rest) = bodiesFrom none rest := by
  induction cs with
  | nil => rfl
  | cons c cs ih =>
    obtain ⟨hc, hcs⟩ := List.ne_and_not_mem_of_not_mem_cons h
    simp [hc.symm, ih hcs]

theorem bodiesFrom_some_cons (h : c ≠ '\\') (body cs : List Char) :
    bodiesFrom (some body) (c :: cs) =
      if c = '"' then (bodiesFrom none cs).map (body :: ·)
      else bodiesFrom (some (body ++ [c])) cs := by
  simp [h]

theorem bodiesFrom_some_append (h : ∀ c ∈ cs, c ≠ '"' ∧ c ≠ '\\') (body rest : List Char) :
    bodiesFrom (some body) (cs ++ rest) = bodiesFrom (some (body ++ cs)) rest := by
  induction cs generalizing body with
  | nil => simp
  | cons c cs ih =>
    obtain ⟨hc, hcs⟩ := List.forall_mem_cons.1 h
    rw [List.cons_append, bodiesFrom_some_cons hc.2, if_neg hc.1, ih hcs]
    simp

/-- A literal ends at the quote behind its body. -/
theorem LiteralBody.bodiesFrom_eq (h : LiteralBody letters cs) (body rest : List Char) :
    bodiesFrom (some body) (cs ++ '"' :: rest) = (bodiesFrom none rest).map ((body ++ cs) :: ·) := by
  induction h generalizing body with
  | nil => simp
  | @plain c cs hc _ ih =>
    have hplain : ∀ d ∈ [c], d ≠ '"' ∧ d ≠ '\\' := by
      simp only [List.mem_cons, not_or] at hc
      simp [hc]
    have hread := bodiesFrom_some_append hplain body (cs ++ '"' :: rest)
    rw [ih, List.append_assoc] at hread
    exact hread
  | @letter c cs _ _ ih =>
    have hread : bodiesFrom (some body) ('\\' :: c :: (cs ++ '"' :: rest)) =
        bodiesFrom (some (body ++ ['\\', c])) (cs ++ '"' :: rest) := by simp
    rw [ih, List.append_assoc] at hread
    exact hread
  | @code a b c d cs hdigits _ ih =>
    have hread : bodiesFrom (some body) ('\\' :: 'u' :: ([a, b, c, d] ++ (cs ++ '"' :: rest))) =
        bodiesFrom (some (body ++ ['\\', 'u'])) ([a, b, c, d] ++ (cs ++ '"' :: rest)) := by
      simp
    rw [bodiesFrom_some_append fun x hx => Json.ne_of_isHexDigit (hdigits x hx), ih,
      List.append_assoc, List.append_assoc] at hread
    exact hread

theorem mem_escapeOpenings_iff : c ∈ escapeOpenings cs ↔ c ∈ cs := by
  refine ⟨mem_of_mem_escapeOpenings, fun h => ?_⟩
  fun_induction escapeOpenings cs <;> grind

/-- A body is as JSON has it, and as HCL has it unless its text has one of the two characters that
only JSON has letters for. -/
def WrittenFor (body : List Char) (s : String) : Prop :=
  LiteralBody (escapeLetters ++ ['b', 'f']) body ∧
    (LiteralBody escapeLetters body ↔ '\x08' ∉ s.toList ∧ '\x0c' ∉ s.toList)

theorem writtenFor_escaped (s : String) :
    WrittenFor ((escapeOpenings s.toList).flatMap Json.escapeChar) s := by
  constructor
  · rw [body_flatMap_escapeChar_iff (List.subset_append_left _ _) (by decide)]
    simp
  · rw [body_flatMap_escapeChar_iff (List.Subset.refl _) (by decide), mem_escapeOpenings_iff,
      mem_escapeOpenings_iff]
    simp [escapeLetters]

/-- A part has as many literals as texts, and each literal is written for its text. -/
def Delimits (part : List Char) (texts : List String) : Prop :=
  ∃ written, List.Forall₂ WrittenFor written texts ∧
    ∀ rest, bodiesFrom none (part ++ rest) = (bodiesFrom none rest).map (written ++ ·)

theorem partWise_delimits : PartWise Delimits where
  bare part h := by
    have hquote : '"' ∉ part := fun hc => h _ hc (by decide)
    exact ⟨[], .nil, fun rest => by simp [bodiesFrom_none_append hquote]⟩
  quoted s := by
    have hwritten := writtenFor_escaped s
    refine ⟨_, .cons hwritten .nil, fun rest => ?_⟩
    have hread := hwritten.1.bodiesFrom_eq [] rest
    rw [quoteChars_eq, Raw.quoteChars_append, bodiesFrom, if_pos rfl]
    exact hread
  append := by
    rintro part part' texts texts' ⟨written, htexts, hread⟩ ⟨written', htexts', hread'⟩
    refine ⟨written ++ written', List.rel_append htexts htexts', fun rest => ?_⟩
    rw [List.append_assoc, hread, hread', Option.map_map]
    simp [Function.comp_def]

end Hcl

/-- **Literals.** The literals of an expression, told by their quotes alone, are as many as the texts
that its value has in quotes, in the same order. In the body of each, every backslash begins one of
the escapes of JSON, and no quote or line break stands by itself. These are the escapes of HCL
just if the text has no backspace and no form feed. -/
theorem literals_wellFormed_iff (indent : Nat) (v : Json) :
    ∃ bodies, Hcl.bodies (Hcl.text indent v).toList = some bodies ∧
      List.Forall₂ (fun body s =>
        Hcl.LiteralBody (Hcl.escapeLetters ++ ['b', 'f']) body ∧
          (Hcl.LiteralBody Hcl.escapeLetters body ↔ '\x08' ∉ s.toList ∧ '\x0c' ∉ s.toList))
        bodies (Hcl.quotedTexts v) := by
  obtain ⟨bodies, htexts, hread⟩ := Hcl.partWise_delimits.chars indent v
  refine ⟨bodies, ?_, htexts⟩
  have hread := hread []
  rw [List.append_nil] at hread
  rw [Hcl.text, String.toList_ofList, Hcl.bodies, hread]
  simp [Hcl.bodiesFrom]

/-- A backspace is written with a letter that HCL does not know. -/
theorem literal_of_backspace :
    ∃ body, Hcl.bodies (Hcl.text 2 (.str "\x08")).toList = some [body] ∧
      ¬ Hcl.LiteralBody Hcl.escapeLetters body := by
  refine ⟨['\\', 'b'], by decide +kernel, ?_⟩
  rw [Hcl.body_letter_iff (by decide)]
  exact fun h => absurd h.1 (by decide)

end CloudGraph

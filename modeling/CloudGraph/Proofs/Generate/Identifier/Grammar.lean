import CloudGraph.Generate.Identifier
import CloudGraph.Text.Bytes
import Mathlib.Data.List.TakeDrop

/-!
# The grammar of identifiers

Snake identifiers are `[a-z_][a-z0-9_]*`, alphanumeric ones `[a-z][a-z0-9]*`.

**Sanitizing** (`accepts_sanitize`). Whatever the text, what comes of it is an identifier of the
style, up to the bound.

**Retraction** (`sanitize_retraction`). An identifier within the bound stays as it is: it has no
blank to trim, each of its characters folds to itself, it does not start with a digit, and there
is nothing to cut.

**Closure** (`acceptsChars_append`, `acceptsChars_take`). An identifier stays one when it is cut
short, unless nothing is left, and when letters or digits are put behind it. A digit can come
first only in what is left of nothing, so cutting never exposes one.
-/

namespace CloudGraph

namespace IdentifierStyle

/-- What an identifier may start with. -/
def isFirst : IdentifierStyle → Char → Bool
  | .snake, c => c.isLower || c == '_'
  | .alphanumeric, c => c.isLower

/-- What may follow. -/
def isRest : IdentifierStyle → Char → Bool
  | .snake, c => c.isLower || c.isDigit || c == '_'
  | .alphanumeric, c => c.isLower || c.isDigit

def acceptsChars (style : IdentifierStyle) : List Char → Bool
  | [] => false
  | c :: cs => style.isFirst c && cs.all style.isRest

/-- Whether a text is an identifier of the style. -/
def accepts (style : IdentifierStyle) (name : String) : Bool :=
  style.acceptsChars name.toList

variable {style : IdentifierStyle} {c : Char} {cs ds : List Char}

theorem isRest_of_isFirst (h : style.isFirst c = true) : style.isRest c = true := by
  cases style with
  | snake =>
    simp only [isFirst, isRest, Bool.or_eq_true] at h ⊢
    exact h.elim (fun h => .inl (.inl h)) .inr
  | alphanumeric =>
    simp only [isFirst, isRest, Bool.or_eq_true] at h ⊢
    exact .inl h

theorem isFirst_of_isRest (h : style.isRest c = true) (hdigit : c.isDigit = false) :
    style.isFirst c = true := by
  cases style <;> simpa [isFirst, isRest, hdigit] using h

theorem isRest_of_isDigit (h : c.isDigit = true) : style.isRest c = true := by
  cases style <;> simp [isRest, h]

/-- The code points of the characters: digits, the underscore and small letters of ASCII. -/
theorem toNat_of_isRest (h : style.isRest c = true) :
    48 ≤ c.toNat ∧ c.toNat ≤ 57 ∨ c.toNat = 95 ∨ 97 ≤ c.toNat ∧ c.toNat ≤ 122 := by
  have hclass : c.isLower = true ∨ c.isDigit = true ∨ c = '_' := by
    cases style <;> simp [isRest] at h <;> tauto
  rcases hclass with h | h | rfl
  · obtain ⟨ha, hz⟩ := Bool.and_eq_true_iff.1 h
    exact .inr (.inr ⟨of_decide_eq_true ha, of_decide_eq_true hz⟩)
  · obtain ⟨hzero, hnine⟩ := Bool.and_eq_true_iff.1 h
    exact .inl ⟨of_decide_eq_true hzero, of_decide_eq_true hnine⟩
  · exact .inr (.inl rfl)

theorem isRest_val_le (h : style.isRest c = true) : c.val ≤ 127 := by
  have hrange := toNat_of_isRest h
  show c.toNat ≤ 127
  omega

theorem isBlank_of_isRest (h : style.isRest c = true) : Text.isBlank c = false := by
  have hrange := toNat_of_isRest h
  simp [Text.isBlank]
  omega

theorem toLower_of_isRest (h : style.isRest c = true) : c.toLower = c := by
  have hrange := toNat_of_isRest h
  refine dif_neg ?_
  intro ⟨ha, hz⟩
  have ha : 65 ≤ c.toNat := ha
  have hz : c.toNat ≤ 90 := hz
  omega

theorem isDigit_of_isFirst (h : style.isFirst c = true) : c.isDigit = false := by
  refine Bool.eq_false_iff.2 fun hdigit => ?_
  have hnine : c.toNat ≤ 57 := of_decide_eq_true (Bool.and_eq_true_iff.1 hdigit).2
  have hclass : c.isLower = true ∨ c = '_' := by
    cases style <;> simp [isFirst] at h <;> tauto
  rcases hclass with hlower | rfl
  · have ha : 97 ≤ c.toNat := of_decide_eq_true (Bool.and_eq_true_iff.1 hlower).1
    omega
  · simp at hnine

/-! ## Closure -/

theorem isRest_of_acceptsChars (h : style.acceptsChars cs = true) :
    ∀ c ∈ cs, style.isRest c = true := by
  cases cs with
  | nil => simp [acceptsChars] at h
  | cons d cs =>
    obtain ⟨hfirst, hrest⟩ := Bool.and_eq_true_iff.1 h
    intro c hc
    rcases List.mem_cons.1 hc with rfl | hc
    · exact isRest_of_isFirst hfirst
    · exact List.all_eq_true.1 hrest c hc

theorem acceptsChars_append (h : style.acceptsChars cs = true)
    (hds : ∀ d ∈ ds, style.isRest d = true) : style.acceptsChars (cs ++ ds) = true := by
  cases cs with
  | nil => simp [acceptsChars] at h
  | cons c cs =>
    obtain ⟨hfirst, hrest⟩ := Bool.and_eq_true_iff.1 h
    refine Bool.and_eq_true_iff.2 ⟨hfirst, List.all_eq_true.2 fun d hd => ?_⟩
    rcases List.mem_append.1 hd with hd | hd
    · exact List.all_eq_true.1 hrest d hd
    · exact hds d hd

theorem acceptsChars_take (h : style.acceptsChars cs = true) {n : Nat} (hn : 0 < n) :
    style.acceptsChars (cs.take n) = true := by
  obtain ⟨n, rfl⟩ := Nat.exists_eq_add_one_of_ne_zero (Nat.ne_of_gt hn)
  cases cs with
  | nil => simp [acceptsChars] at h
  | cons c cs =>
    obtain ⟨hfirst, hrest⟩ := Bool.and_eq_true_iff.1 h
    refine Bool.and_eq_true_iff.2 ⟨hfirst, List.all_eq_true.2 fun d hd => ?_⟩
    exact List.all_eq_true.1 hrest d (List.mem_of_mem_take hd)

/-- An identifier has as many bytes as characters. -/
theorem byteSize_of_acceptsChars (h : style.acceptsChars cs = true) :
    Text.byteSize cs = cs.length := by
  have hsize : ∀ c ∈ cs, c.utf8Size = 1 := fun c hc =>
    Char.utf8Size_eq_one_iff.2 (isRest_val_le (isRest_of_acceptsChars h c hc))
  clear h
  induction cs with
  | nil => rfl
  | cons c cs ih =>
    obtain ⟨hc, hcs⟩ := List.forall_mem_cons.1 hsize
    rw [List.length_cons, ← ih hcs, Nat.add_comm, ← hc]
    rfl

end IdentifierStyle

namespace Identifier

open IdentifierStyle

/-! ## Sanitizing -/

theorem isRest_fold (c : Char) : IdentifierStyle.snake.isRest (fold c) = true := by
  unfold fold
  split_ifs with h
  · exact h
  · rfl

/-- With a mark put before a digit, characters that may follow make an identifier. -/
theorem acceptsChars_startWith {style : IdentifierStyle} {mark : Char} {cs : List Char}
    (hmark : style.isFirst mark = true) (hcs : ∀ c ∈ cs, style.isRest c = true) :
    style.acceptsChars (startWith mark cs) = true := by
  cases cs with
  | nil => cases style <;> rfl
  | cons c cs =>
    obtain ⟨hc, hrest⟩ := List.forall_mem_cons.1 hcs
    by_cases hdigit : c.isDigit = true
    · rw [startWith, if_pos hdigit]
      exact Bool.and_eq_true_iff.2 ⟨hmark, List.all_eq_true.2 hcs⟩
    · rw [startWith, if_neg hdigit]
      exact Bool.and_eq_true_iff.2
        ⟨isFirst_of_isRest hc (Bool.eq_false_iff.2 hdigit), List.all_eq_true.2 hrest⟩

theorem acceptsChars_snakeChars (raw : String) :
    IdentifierStyle.snake.acceptsChars (snakeChars raw) = true := by
  refine acceptsChars_startWith rfl fun c hc => ?_
  obtain ⟨d, -, rfl⟩ := List.mem_map.1 hc
  exact isRest_fold d

theorem acceptsChars_alphanumericChars (raw : String) :
    IdentifierStyle.alphanumeric.acceptsChars (alphanumericChars raw) = true := by
  refine acceptsChars_startWith rfl fun c hc => ?_
  obtain ⟨hc, hne⟩ := List.mem_filter.1 hc
  have hsnake := isRest_of_acceptsChars (acceptsChars_snakeChars raw) c hc
  simpa [isRest, show c ≠ '_' by simpa using hne] using hsnake

theorem accepts_sanitize (style : IdentifierStyle) (raw : String) (maxLength : Nat) :
    style.accepts (sanitize style raw maxLength) = true := by
  have hpos : 0 < max maxLength 1 := by omega
  unfold accepts sanitize
  rw [String.toList_ofList]
  cases style with
  | snake => exact acceptsChars_take (acceptsChars_snakeChars raw) hpos
  | alphanumeric => exact acceptsChars_take (acceptsChars_alphanumericChars raw) hpos

theorem length_sanitize_le (style : IdentifierStyle) (raw : String) (maxLength : Nat) :
    (sanitize style raw maxLength).length ≤ max maxLength 1 := by
  unfold sanitize
  rw [String.length_ofList]
  exact List.length_take_le _ _

/-! ## Identifiers stay as they are -/

variable {style : IdentifierStyle} {name : String} {maxLength : Nat}

theorem fold_of_isRest {c : Char} (h : IdentifierStyle.snake.isRest c = true) : fold c = c := by
  unfold fold
  rw [toLower_of_isRest h]
  exact if_pos h

theorem startWith_of_acceptsChars {mark : Char} {cs : List Char}
    (h : style.acceptsChars cs = true) : startWith mark cs = cs := by
  cases cs with
  | nil => simp [acceptsChars] at h
  | cons c cs =>
    have hdigit := isDigit_of_isFirst (Bool.and_eq_true_iff.1 h).1
    simp [startWith, hdigit]

theorem snakeChars_of_accepts (h : IdentifierStyle.snake.accepts name = true) :
    snakeChars name = name.toList := by
  have hrest := isRest_of_acceptsChars h
  have htrim : Text.trimChars name.toList = name.toList :=
    Text.trimChars_of_forall fun c hc => isBlank_of_isRest (hrest c hc)
  have hfold : name.toList.map fold = name.toList := by
    rw [List.map_congr_left fun c hc => fold_of_isRest (hrest c hc), List.map_id']
  rw [snakeChars, htrim, hfold, startWith_of_acceptsChars h]

theorem accepts_snake_of_alphanumeric (h : IdentifierStyle.alphanumeric.accepts name = true) :
    IdentifierStyle.snake.accepts name = true := by
  unfold accepts at h ⊢
  cases hname : name.toList with
  | nil => simp [hname, acceptsChars] at h
  | cons c cs =>
    rw [hname] at h
    obtain ⟨hfirst, hrest⟩ := Bool.and_eq_true_iff.1 h
    refine Bool.and_eq_true_iff.2 ⟨Bool.or_eq_true_iff.2 (.inl hfirst), ?_⟩
    refine List.all_eq_true.2 fun d hd => Bool.or_eq_true_iff.2 (.inl ?_)
    exact List.all_eq_true.1 hrest d hd

theorem alphanumericChars_of_accepts (h : IdentifierStyle.alphanumeric.accepts name = true) :
    alphanumericChars name = name.toList := by
  have hfilter : name.toList.filter (· != '_') = name.toList := by
    refine List.filter_eq_self.2 fun c hc => ?_
    have hrest := isRest_of_acceptsChars h c hc
    rw [bne_iff_ne]
    rintro rfl
    simp [isRest] at hrest
  rw [alphanumericChars, snakeChars_of_accepts (accepts_snake_of_alphanumeric h), hfilter,
    startWith_of_acceptsChars h]

theorem sanitize_of_accepts (h : style.accepts name = true) (hlength : name.length ≤ maxLength) :
    sanitize style name maxLength = name := by
  have hcut : name.toList.take (max maxLength 1) = name.toList := by
    rw [List.take_of_length_le]
    rw [String.length_toList]
    omega
  cases style with
  | snake => rw [sanitize, snakeChars_of_accepts h, hcut, String.ofList_toList]
  | alphanumeric => rw [sanitize, alphanumericChars_of_accepts h, hcut, String.ofList_toList]

/-- The identifiers of a style within a bound. -/
def within (style : IdentifierStyle) (maxLength : Nat) : Set String :=
  {name | style.accepts name = true ∧ name.length ≤ maxLength}

/-- **Sanitizing is a retraction onto the identifiers within the bound.** Whatever the text, what
comes of it is one of them, and each of them stays as it is. So it is the same to sanitize twice. -/
theorem sanitize_retraction (style : IdentifierStyle) {maxLength : Nat} (hbound : 1 ≤ maxLength) :
    (∀ raw, sanitize style raw maxLength ∈ within style maxLength) ∧
      (∀ name ∈ within style maxLength, sanitize style name maxLength = name) ∧
      ∀ raw, sanitize style (sanitize style raw maxLength) maxLength =
        sanitize style raw maxLength := by
  have hinto : ∀ raw, sanitize style raw maxLength ∈ within style maxLength := by
    intro raw
    have hlength := length_sanitize_le style raw maxLength
    exact ⟨accepts_sanitize style raw maxLength, by omega⟩
  have hfixed : ∀ name ∈ within style maxLength, sanitize style name maxLength = name :=
    fun name hname => sanitize_of_accepts hname.1 hname.2
  exact ⟨hinto, hfixed, fun raw => hfixed _ (hinto raw)⟩

theorem sanitize_retraction_digits :
    1 ≤ 2 ∧ sanitize .snake " 9lives" 2 = "_9" ∧ "_9" ∈ within .snake 2 ∧
      sanitize .snake "_9" 2 = "_9" := by
  have hbound : 1 ≤ 2 := by decide
  obtain ⟨hinto, hfixed, -⟩ := sanitize_retraction .snake hbound
  have hrun : sanitize .snake " 9lives" 2 = "_9" := by decide +kernel
  have hmem : "_9" ∈ within .snake 2 := hrun ▸ hinto " 9lives"
  exact ⟨hbound, hrun, hmem, hfixed "_9" hmem⟩

end Identifier

end CloudGraph

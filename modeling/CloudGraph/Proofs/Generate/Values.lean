import CloudGraph.Generate.Hcl
import CloudGraph.Proofs.Text.Lines

/-!
# Values in programs

A value is written into a program as JSON over several lines or as an expression of HCL. Both hang:
a line after the first starts with the blanks of its indent, or with the bracket that closes the
value. No text of the value ends a line, since a line break in it is escaped, and neither does a
number. So no value can start a line with text of its own.

In HCL the blanks are those of the line that the value starts on (`Hcl.hangingFrom_chars`). A finite
number is written in digits, signs, a point and an `e` (`Number.isNumeral_chars`).
-/

namespace CloudGraph

open Text (Hanging HangingFrom hanging_of_notMem hangingFrom_of_notMem continuation)

/-! ## Texts -/

theorem Text.exists_of_mem_hexDigits {width n : Nat} {c : Char} (h : c ∈ Text.hexDigits width n) :
    ∃ d < 16, c = Text.hexDigit d := by
  induction width generalizing n with
  | zero => exact absurd h List.not_mem_nil
  | succ width ih =>
    rw [Text.hexDigits, List.mem_append, List.mem_singleton] at h
    rcases h with h | h
    · exact ih h
    · exact ⟨_, Nat.mod_lt n (by decide), h⟩

namespace Json

/-- A character is written as it is, or in the letters of an escape. -/
theorem eq_or_of_mem_escapeChar {c d : Char} (h : d ∈ escapeChar c) :
    (d = c ∧ c ≠ '\n') ∨ d ∈ ['"', '\\', 'b', 'f', 'n', 'r', 't', 'u'] ∨
      ∃ i < 16, d = Text.hexDigit i := by
  have hletter {e : Char} (he : e ∈ ['"', '\\', 'b', 'f', 'n', 'r', 't', 'u'])
      (h : d ∈ ['\\', e]) : d ∈ ['"', '\\', 'b', 'f', 'n', 'r', 't', 'u'] := by
    rcases List.mem_cons.1 h with rfl | h
    · decide
    · exact List.mem_singleton.1 h ▸ he
  unfold escapeChar at h
  split_ifs at h with _ _ _ _ hnewline
  iterate 7 exact .inr (.inl (hletter (by decide) h))
  · rcases List.mem_cons.1 h with rfl | h
    · exact .inr (.inl (by decide))
    rcases List.mem_cons.1 h with rfl | h
    · exact .inr (.inl (by decide))
    exact .inr (.inr (Text.exists_of_mem_hexDigits h))
  · exact .inl ⟨List.mem_singleton.1 h, hnewline⟩

/-- The letters of an escape are no braces, signs or line breaks. -/
theorem eq_of_mem_escapeChar {c d : Char} (hd : d ∈ ['\n', '{', '$', '%']) (h : d ∈ escapeChar c) :
    d = c ∧ c ≠ '\n' := by
  have hletters : ∀ d ∈ ['\n', '{', '$', '%'], d ∉ ['"', '\\', 'b', 'f', 'n', 'r', 't', 'u'] ∧
      ∀ i < 16, d ≠ Text.hexDigit i := by
    simp only [List.mem_cons, List.not_mem_nil, or_false, forall_eq_or_imp, forall_eq]
    decide
  rcases eq_or_of_mem_escapeChar h with hplain | hletter | ⟨i, hi, hdigit⟩
  · exact hplain
  · exact absurd hletter (hletters d hd).1
  · exact absurd hdigit ((hletters d hd).2 i hi)

theorem newline_notMem_escapeChar (c : Char) : '\n' ∉ escapeChar c := fun h =>
  have hplain := eq_of_mem_escapeChar (by decide) h
  hplain.2 hplain.1.symm

theorem newline_notMem_quoteChars (cs : List Char) : '\n' ∉ quoteChars cs := by
  unfold quoteChars
  simp [newline_notMem_escapeChar]

end Json

/-! ## Numbers -/

namespace Decimal

/-- A character that a finite number is written with. -/
def isNumeralChar (c : Char) : Bool :=
  c.isDigit || c == '-' || c == '+' || c == '.' || c == 'e'

/-- The text of a finite number: not empty, and without a character that it is not written with. -/
def IsNumeral (cs : List Char) : Prop :=
  cs ≠ [] ∧ ∀ c ∈ cs, isNumeralChar c = true

theorem isNumeralChar_of_mem_digitText {n : Nat} {c : Char} (h : c ∈ digitText n) :
    isNumeralChar c = true := by
  have hdigit : c.isDigit = true := Nat.isDigit_of_mem_toDigits (by decide) (by decide) h
  simp [isNumeralChar, hdigit]

theorem isNumeral_digitText (n : Nat) : IsNumeral (digitText n) :=
  ⟨Nat.toDigits_ne_nil, fun _ => isNumeralChar_of_mem_digitText⟩

theorem isNumeralChar_of_mem_zeros {n : Nat} {c : Char} (h : c ∈ zeros n) :
    isNumeralChar c = true := by
  rw [List.eq_of_mem_replicate h]
  decide

theorem IsNumeral.append {cs ds : List Char} (h : IsNumeral cs)
    (hds : ∀ d ∈ ds, isNumeralChar d = true) : IsNumeral (cs ++ ds) :=
  ⟨List.append_ne_nil_of_left_ne_nil h.1 ds, List.forall_mem_append.2 ⟨h.2, hds⟩⟩

theorem IsNumeral.after {cs ds : List Char} (h : IsNumeral ds)
    (hcs : ∀ c ∈ cs, isNumeralChar c = true) : IsNumeral (cs ++ ds) :=
  ⟨List.append_ne_nil_of_right_ne_nil cs h.1, List.forall_mem_append.2 ⟨hcs, h.2⟩⟩

theorem isNumeral_positionalText (keepFraction : Bool) (d : Digits) :
    IsNumeral (positionalText keepFraction d) := by
  have hdigits := isNumeral_digitText d.digits
  have hpoint : IsNumeral ['.'] := ⟨List.cons_ne_nil _ _, List.all_eq_true.1 (by decide)⟩
  have hzero : IsNumeral ['0', '.'] := ⟨List.cons_ne_nil _ _, List.all_eq_true.1 (by decide)⟩
  have hdrop (n : Nat) : ∀ c ∈ (digitText d.digits).drop n, isNumeralChar c = true := fun c hc =>
    hdigits.2 c (List.mem_of_mem_drop hc)
  have htake (n : Nat) : ∀ c ∈ (digitText d.digits).take n, isNumeralChar c = true := fun c hc =>
    hdigits.2 c (List.mem_of_mem_take hc)
  unfold positionalText
  dsimp only
  split_ifs
  · exact (hdigits.append fun _ => isNumeralChar_of_mem_zeros).append
      (List.all_eq_true.1 (by decide))
  · exact (hdigits.append fun _ => isNumeralChar_of_mem_zeros).append (by simp)
  · exact (hpoint.append (hdrop _)).after (htake _)
  · exact hzero.append (List.forall_mem_append.2 ⟨fun _ => isNumeralChar_of_mem_zeros, hdigits.2⟩)

theorem isNumeral_exponentText {plus : String} (hplus : ∀ c ∈ plus.toList, isNumeralChar c = true)
    (d : Digits) : IsNumeral (exponentText plus d) := by
  have hsign : ∀ e : Int, ∀ c ∈ if e < 0 then ['-'] else plus.toList, isNumeralChar c = true := by
    intro e
    split_ifs
    · exact List.all_eq_true.1 (by decide)
    · exact hplus
  have hpower : IsNumeral ['e'] := ⟨List.cons_ne_nil _ _, List.all_eq_true.1 (by decide)⟩
  have hdigits := isNumeral_digitText d.digits
  unfold exponentText
  dsimp only
  generalize digitText d.digits = ds at hdigits ⊢
  have hend {mantissa : List Char} (h : ∀ c ∈ mantissa, isNumeralChar c = true) :=
    ((hpower.append (hsign (ds.length + d.exponent - 1))).after h).append
      (isNumeral_digitText (ds.length + d.exponent - 1).natAbs).2
  rcases ds with _ | ⟨c, _ | ⟨c', cs⟩⟩
  · exact hend hdigits.2
  · exact hend hdigits.2
  · obtain ⟨hc, hcs⟩ := List.forall_mem_cons.1 hdigits.2
    exact hend (List.forall_mem_cons.2 ⟨hc, List.forall_mem_cons.2 ⟨by decide, hcs⟩⟩)

theorem isNumeral_render {style : Style} (hplus : ∀ c ∈ style.plus.toList, isNumeralChar c = true)
    {x : Float} (hnan : x.isNaN = false) (hinf : x.isInf = false) :
    IsNumeral (style.render x).toList := by
  have hsign : ∀ c ∈ if (parts x).negative then ['-'] else [], isNumeralChar c = true := by
    split_ifs <;> exact List.all_eq_true.1 (by decide)
  unfold Style.render
  rw [if_neg (hnan ▸ Bool.false_ne_true), if_neg (hinf ▸ Bool.false_ne_true),
    String.toList_ofList]
  refine IsNumeral.after ?_ hsign
  split_ifs
  · exact isNumeral_positionalText _ _
  · exact isNumeral_exponentText hplus _

end Decimal

namespace Number

open Decimal

/-- Whether a number is a decimal. A double may be infinite, or no number. -/
def IsFinite : Number → Prop
  | .int _ _ => True
  | .double x => x.isFinite = true

theorem not_isNaN_of_isFinite {x : Float} (h : x.isFinite = true) :
    x.isNaN = false ∧ x.isInf = false := by
  change x.toModel.unpack.isFinite = true at h
  change x.toModel.unpack.isNaN = false ∧ x.toModel.unpack.isInf = false
  revert h
  cases x.toModel.unpack with
  | notANumber => exact fun h => absurd h Bool.false_ne_true
  | infinity => exact fun h => absurd h Bool.false_ne_true
  | zero => exact fun _ => ⟨rfl, rfl⟩
  | finite => exact fun _ => ⟨rfl, rfl⟩

theorem isNumeral_chars {n : Number} (h : n.IsFinite) : IsNumeral n.chars := by
  cases n with
  | int n _ =>
    refine (isNumeral_digitText n.natAbs).after ?_
    split_ifs <;> exact List.all_eq_true.1 (by decide)
  | double x =>
    have hfinite : x.isFinite = true := h
    obtain ⟨hnan, hinf⟩ := not_isNaN_of_isFinite hfinite
    have hrender : IsNumeral (jsonStyle.render x).toList :=
      isNumeral_render (List.all_eq_true.1 (by decide)) hnan hinf
    show IsNumeral (if x.isFinite = true then _ else _)
    rwa [if_pos hfinite]

/-- A number is a numeral or the word for a number that is none. -/
theorem notMem_chars (n : Number) {c : Char} (hc : isNumeralChar c = false)
    (hword : c ∉ jsonStyle.notANumber.toList) : c ∉ n.chars := by
  have hfinite (h : n.IsFinite) : c ∉ n.chars := fun hmem =>
    Bool.false_ne_true (hc.symm.trans ((isNumeral_chars h).2 c hmem))
  cases n with
  | int n fits => exact hfinite trivial
  | double x =>
    by_cases h : x.isFinite = true
    · exact hfinite h
    · show c ∉ if x.isFinite = true then _ else _
      rwa [if_neg h]

theorem newline_notMem_chars (n : Number) : '\n' ∉ n.chars :=
  n.notMem_chars (by decide) (by decide)

end Number

/-! ## JSON -/

namespace Json

theorem hanging_quoteChars (cs : List Char) : Hanging (quoteChars cs) :=
  hanging_of_notMem (newline_notMem_quoteChars cs)

/-- A line within brackets is indented. -/
theorem hanging_newline_succ (level : Nat) : Hanging (newline (level + 1)) := by
  have hindent : Hanging (' ' :: List.replicate (2 * level + 1) ' ') :=
    hanging_of_notMem (by simp [List.mem_replicate])
  exact hindent.newline_cons (by decide)

/-- The line of a closing bracket is indented or starts with the bracket. -/
theorem hanging_newline_close (level : Nat) {bracket : Char} (h : bracket ∈ continuation) :
    Hanging (newline level ++ [bracket]) := by
  have hbracket : Hanging [bracket] := ⟨by rintro rfl; exact absurd h (by decide), trivial⟩
  cases level with
  | zero => exact hbracket.newline_cons h
  | succ level => exact (hanging_newline_succ level).append hbracket

mutual

theorem hanging_prettyChars (level : Nat) : (v : Json) → Hanging (v.prettyChars level)
  | .null | .bool true | .bool false | .arr [] | .obj [] => by
    simp [prettyChars, Hanging]
  | .num n => by
    rw [prettyChars]
    exact hanging_of_notMem n.newline_notMem_chars
  | .str s => by
    rw [prettyChars]
    exact hanging_quoteChars s.toList
  | .arr (v :: rest) => by
    rw [prettyChars]
    have hopen := (hanging_newline_succ level).cons_of_ne (c := '[') (by decide)
    exact (hopen.append (hanging_prettyChars (level + 1) v)).append (hanging_prettyItems level rest)
  | .obj ((k, v) :: rest) => by
    rw [prettyChars]
    have hopen := (hanging_newline_succ level).cons_of_ne (c := '{') (by decide)
    have hvalue := (hanging_prettyChars (level + 1) v).after_of_notMem [':', ' '] (by decide)
    exact ((hopen.append (hanging_quoteChars k.toList)).append hvalue).append
      (hanging_prettyMembers level rest)

theorem hanging_prettyItems (level : Nat) : (items : List Json) → Hanging (prettyItems level items)
  | [] => by
    rw [prettyItems]
    exact hanging_newline_close level (by decide)
  | v :: rest => by
    rw [prettyItems]
    have hopen := (hanging_newline_succ level).cons_of_ne (c := ',') (by decide)
    exact (hopen.append (hanging_prettyChars (level + 1) v)).append (hanging_prettyItems level rest)

theorem hanging_prettyMembers (level : Nat) :
    (members : List (String × Json)) → Hanging (prettyMembers level members)
  | [] => by
    rw [prettyMembers]
    exact hanging_newline_close level (by decide)
  | (k, v) :: rest => by
    rw [prettyMembers]
    have hopen := (hanging_newline_succ level).cons_of_ne (c := ',') (by decide)
    have hvalue := (hanging_prettyChars (level + 1) v).after_of_notMem [':', ' '] (by decide)
    exact ((hopen.append (hanging_quoteChars k.toList)).append hvalue).append
      (hanging_prettyMembers level rest)

end

theorem exists_suffix_prettyMembers (members : List (String × Json)) :
    ∃ c, c ≠ ' ' ∧ [c, '}'] <:+ prettyMembers 0 members := by
  induction members with
  | nil => exact ⟨'\n', by decide, List.suffix_rfl⟩
  | cons m members ih =>
    obtain ⟨c, hc, hsuffix⟩ := ih
    rw [prettyMembers]
    exact ⟨c, hc, hsuffix.trans (List.suffix_append _ _)⟩

/-- No blank stands before the brace that closes an object. -/
theorem exists_suffix_prettyChars (members : List (String × Json)) :
    ∃ c, c ≠ ' ' ∧ [c, '}'] <:+ (Json.obj members).prettyChars 0 := by
  cases members with
  | nil => exact ⟨'{', by decide, List.suffix_rfl⟩
  | cons m members =>
    obtain ⟨c, hc, hsuffix⟩ := exists_suffix_prettyMembers members
    rw [prettyChars]
    exact ⟨c, hc, hsuffix.trans (List.suffix_append _ _)⟩

end Json

/-! ## HCL -/

namespace Hcl

theorem mem_of_mem_escapeOpenings {c : Char} {s : List Char} (h : c ∈ escapeOpenings s) :
    c ∈ s := by
  fun_induction escapeOpenings s <;> grind

theorem newline_notMem_quoteChars (s : List Char) : '\n' ∉ quoteChars s := fun h =>
  Json.newline_notMem_quoteChars s (mem_of_mem_escapeOpenings h)

theorem isAttributeChar_of_mem {s : List Char} (h : isAttributeName s = true) {c : Char}
    (hc : c ∈ s) : isAttributeChar c = true := by
  cases s with
  | nil => cases hc
  | cons d ds =>
    obtain ⟨hstart, hrest⟩ := Bool.and_eq_true_iff.1 h
    rcases List.mem_cons.1 hc with rfl | hc
    · unfold isAttributeStart at hstart
      unfold isAttributeChar
      grind
    · exact List.all_eq_true.1 hrest c hc

theorem newline_notMem_of_isAttributeName {s : List Char} (h : isAttributeName s = true) :
    '\n' ∉ s := fun hc => absurd (isAttributeChar_of_mem h hc) (by decide)

theorem newline_notMem_keyChars (key : List Char) : '\n' ∉ keyChars key := by
  unfold keyChars
  split_ifs with h
  · exact newline_notMem_of_isAttributeName h
  · exact newline_notMem_quoteChars key

theorem newline_notMem_pad (columns : Nat) : '\n' ∉ pad columns := by
  simp [pad, List.mem_replicate]

mutual

/-- A value hangs from the column of its line and from any further left. -/
theorem hangingFrom_chars {columns indent : Nat} (h : columns ≤ indent) :
    (v : Json) → HangingFrom columns (chars indent v)
  | .null | .bool true | .bool false | .arr [] | .obj [] => by
    rw [chars]
    exact hangingFrom_of_notMem (by decide)
  | .num n => by
    rw [chars]
    exact hangingFrom_of_notMem n.newline_notMem_chars
  | .str s => by
    rw [chars]
    exact hangingFrom_of_notMem (newline_notMem_quoteChars s.toList)
  | .arr (v :: rest) => by
    rw [chars]
    have hvalue := (hangingFrom_chars h v).after_of_notMem ['['] (by decide)
    exact hvalue.append (hangingFrom_itemChars h rest)
  | .obj (m :: rest) => by
    rw [chars]
    exact (hangingFrom_newline_entryChars h (m :: rest)).after_of_notMem ['{'] (by decide)

theorem hangingFrom_itemChars {columns indent : Nat} (h : columns ≤ indent) :
    (items : List Json) → HangingFrom columns (itemChars indent items)
  | [] => by
    rw [itemChars]
    exact hangingFrom_of_notMem (by decide)
  | v :: rest => by
    rw [itemChars]
    have hvalue := (hangingFrom_chars h v).after_of_notMem [',', ' '] (by decide)
    exact hvalue.append (hangingFrom_itemChars h rest)

theorem hangingFrom_newline_entryChars {columns indent : Nat} (h : columns ≤ indent) :
    (entries : List (String × Json)) → HangingFrom columns ('\n' :: entryChars indent entries)
  | [] => by
    rw [entryChars]
    have hclose : HangingFrom columns (pad indent ++ ['}']) :=
      (hangingFrom_of_notMem (by decide)).after_of_notMem _ (newline_notMem_pad indent)
    exact hclose.newline_blanks h (by decide)
  | (k, v) :: rest => by
    rw [entryChars]
    have hdeeper : columns ≤ indent + 2 := Nat.le_add_right_of_le h
    have hvalue := (hangingFrom_chars hdeeper v).after_of_notMem [' ', '=', ' '] (by decide)
    have hentry := ((hvalue.after_of_notMem _ (newline_notMem_keyChars k.toList)).after_of_notMem
      _ (newline_notMem_pad (indent + 2))).append (hangingFrom_newline_entryChars h rest)
    -- the last blank of the indent is the character that the line starts with
    have hpad : pad (indent + 2) = List.replicate (indent + 1) ' ' ++ [' '] := List.replicate_succ'
    simp only [hpad, List.append_assoc, List.cons_append, List.nil_append] at hentry ⊢
    exact hentry.newline_blanks (Nat.le_succ_of_le h) (by decide)

end

end Hcl

end CloudGraph

import CloudGraph.Generate.Target
import CloudGraph.Proofs.Generate.Identifier.Grammar
import Mathlib.Algebra.Group.Nat.Defs
import Mathlib.Data.List.Nodup
import Mathlib.Data.Nat.Log

/-!
# Names are new, short and well formed

`NameAllocator.choose` tries the sanitized text and then its numbered variants, with fuel for
finitely many.

**The fuel suffices** (`choose_cases`). Variants whose numbers have equally many digits are cut
at the same place, so they differ. Of the variants numbered from `10 ^ width` on, one more than
there are names in use is enough, and `width` grows only with the logarithm of that count.
Variants of different widths may well coincide: with the bound 8, `abcd1112` is the second and
the twelfth variant of `abcd1111`.

**Freshness** (`choose_not_mem_used`) holds for every bound, and carries over to a whole run
(`nodup_allocateAll`, `not_mem_used_of_mem_allocateAll`).

**The grammar** (`fits_choose`) needs room for one letter in front of the suffix. Below `10 ^ 18`
names a suffix has at most 20 characters, so a bound of 21 leaves it.
-/

namespace CloudGraph.NameAllocator

variable {a : NameAllocator} {base : String}

/-! ## Numbers in decimal -/

theorem length_digitText_le {n width : Nat} (h : n < 10 ^ width) (hwidth : 0 < width) :
    (Decimal.digitText n).length ≤ width :=
  (Nat.length_toDigits_le_iff (by decide) hwidth).2 h

theorem length_digitText {n width : Nat} (hlow : 10 ^ width ≤ n) (hhigh : n < 10 ^ (width + 1)) :
    (Decimal.digitText n).length = width + 1 := by
  refine Nat.le_antisymm (length_digitText_le hhigh width.succ_pos) ?_
  by_contra hlen
  rcases Nat.eq_zero_or_pos width with rfl | hwidth
  · exact hlen Nat.length_toDigits_pos
  · have : n < 10 ^ width := (Nat.length_toDigits_le_iff (by decide) hwidth).1 (by
      show (Decimal.digitText n).length ≤ width
      omega)
    omega

/-! ## Variants -/

theorem suffix_injective {style : IdentifierStyle} {m n : Nat}
    (h : suffix style m = suffix style n) : m = n := by
  cases style with
  | snake => exact Decimal.digitText_injective (List.cons.inj h).2
  | alphanumeric => exact Decimal.digitText_injective h

theorem length_suffix_congr (style : IdentifierStyle) {m n : Nat}
    (h : (Decimal.digitText m).length = (Decimal.digitText n).length) :
    (suffix style m).length = (suffix style n).length := by
  cases style <;> simp [suffix, h]

theorem length_suffix_le (style : IdentifierStyle) (n : Nat) :
    (suffix style n).length ≤ (Decimal.digitText n).length + 1 := by
  cases style <;> simp [suffix]

theorem isRest_of_mem_suffix {style : IdentifierStyle} {n : Nat} {c : Char}
    (h : c ∈ suffix style n) : style.isRest c = true := by
  have hdigit : ∀ d ∈ Decimal.digitText n, style.isRest d = true := fun d hd =>
    IdentifierStyle.isRest_of_isDigit (Nat.isDigit_of_mem_toDigits (by decide) (by decide) hd)
  cases style with
  | snake =>
    rcases List.mem_cons.1 h with rfl | hc
    · rfl
    · exact hdigit c hc
  | alphanumeric => exact hdigit c h

theorem toList_variant (a : NameAllocator) (base : String) (n : Nat) :
    (a.variant base n).toList =
      base.toList.take (a.maxLength - (suffix a.style n).length) ++ suffix a.style n := by
  simp [variant]

/-- Variants with suffixes of one length are cut alike, so their numbers tell them apart. -/
theorem eq_of_variant_eq {m n : Nat} (hlen : (suffix a.style m).length = (suffix a.style n).length)
    (h : a.variant base m = a.variant base n) : m = n := by
  have hlist := congrArg String.toList h
  rw [toList_variant, toList_variant, hlen] at hlist
  exact suffix_injective (List.append_cancel_left hlist)

/-- Among the variants of one width, some is new as soon as they outnumber the names in use. -/
theorem exists_new_variant (base : String) {width : Nat} (h : a.used.length < 10 ^ width) :
    ∃ i ≤ a.used.length, a.variant base (10 ^ width + i) ∉ a.used := by
  by_contra hnone
  push Not at hnone
  set tried := (List.range (a.used.length + 1)).map fun i => a.variant base (10 ^ width + i)
  have hdigits : ∀ i ≤ a.used.length,
      (Decimal.digitText (10 ^ width + i)).length = width + 1 := fun i hi =>
    length_digitText (Nat.le_add_right _ _) (by rw [Nat.pow_succ]; omega)
  have hnodup : tried.Nodup := by
    refine List.Nodup.map_on (fun i hi j hj hij => ?_) List.nodup_range
    have hi := Nat.le_of_lt_succ (List.mem_range.1 hi)
    have hj := Nat.le_of_lt_succ (List.mem_range.1 hj)
    have hlen := length_suffix_congr a.style ((hdigits i hi).trans (hdigits j hj).symm)
    exact Nat.add_left_cancel (eq_of_variant_eq hlen hij)
  have hsubset : tried ⊆ a.used := fun name hname => by
    obtain ⟨i, hi, rfl⟩ := List.mem_map.1 hname
    exact hnone i (Nat.le_of_lt_succ (List.mem_range.1 hi))
  have hle := hnodup.length_le_of_subset hsubset
  simp only [tried, List.length_map, List.length_range] at hle
  omega

/-! ## The choice of a name -/

/-- The search stops at the first new variant, no later than any new one within its fuel. -/
theorem firstNew_spec {fuel n m : Nat} (hnm : n ≤ m) (hm : m < n + fuel)
    (hnew : a.variant base m ∉ a.used) :
    ∃ k, n ≤ k ∧ k ≤ m ∧ a.firstNew base fuel n = a.variant base k ∧
      a.variant base k ∉ a.used ∧ ∀ j, n ≤ j → j < k → a.variant base j ∈ a.used := by
  induction fuel generalizing n with
  | zero => omega
  | succ fuel ih =>
    by_cases hused : a.variant base n ∈ a.used
    · have hne : n ≠ m := fun h => hnew (h ▸ hused)
      obtain ⟨k, hnk, hkm, heq, hk, htaken⟩ := ih (n := n + 1) (by omega) (by omega)
      refine ⟨k, by omega, hkm, ?_, hk, fun j hnj hjk => ?_⟩
      · rw [firstNew, if_pos (List.contains_iff_mem.2 hused), heq]
      · rcases Nat.eq_or_lt_of_le hnj with rfl | hnj
        · exact hused
        · exact htaken j hnj hjk
    · refine ⟨n, Nat.le_refl n, hnm, ?_, hused, fun j hnj hjn => absurd hnj (Nat.not_le.2 hjn)⟩
      rw [firstNew, if_neg (mt List.contains_iff_mem.1 hused)]

/-- The next power of ten is at most ten times the number. -/
theorem pow_succ_log_le {n : Nat} (h : n ≠ 0) : 10 ^ (Nat.log 10 n + 1) ≤ 10 * n := by
  rw [Nat.pow_succ, Nat.mul_comm]
  exact Nat.mul_le_mul_left 10 (Nat.pow_log_le_self 10 h)

theorem choose_of_not_mem_used {raw : String}
    (h : Identifier.sanitize a.style raw a.maxLength ∉ a.used) :
    a.choose raw = Identifier.sanitize a.style raw a.maxLength := by
  unfold choose
  rw [if_neg (mt List.contains_iff_mem.1 h)]

/-- For a text whose identifier is taken, the first new variant from number 2 on is chosen. -/
theorem choose_of_mem_used {raw : String}
    (h : Identifier.sanitize a.style raw a.maxLength ∈ a.used) :
    let base := Identifier.sanitize a.style raw a.maxLength
    ∃ n, 2 ≤ n ∧ n < 2 * 10 ^ (Nat.log 10 a.used.length + 1) ∧
      a.choose raw = a.variant base n ∧ a.variant base n ∉ a.used ∧
      ∀ m, 2 ≤ m → m < n → a.variant base m ∈ a.used := by
  intro base
  set width := Nat.log 10 a.used.length + 1
  have hwidth : a.used.length < 10 ^ width := Nat.lt_pow_succ_log_self (by decide) _
  have htwo : 10 ≤ 10 ^ width := Nat.le_self_pow (Nat.succ_ne_zero _) 10
  have hlog : 10 ^ width ≤ 10 * a.used.length :=
    pow_succ_log_le (Nat.ne_of_gt (List.length_pos_of_mem h))
  obtain ⟨i, hi, hnew⟩ := exists_new_variant base hwidth
  have hreach : 10 ^ width + i < 2 + a.attempts := by
    unfold attempts
    omega
  obtain ⟨n, htwo, hn, heq, hn', htaken⟩ := firstNew_spec (by omega) hreach hnew
  refine ⟨n, htwo, by omega, ?_, hn', htaken⟩
  unfold choose
  rw [if_pos (List.contains_iff_mem.2 h), heq]

/-- A chosen name is the sanitized text or a numbered variant of it, and it is new. -/
theorem choose_cases (a : NameAllocator) (raw : String) :
    let base := Identifier.sanitize a.style raw a.maxLength
    (a.choose raw = base ∧ base ∉ a.used) ∨
    ∃ n < 2 * 10 ^ (Nat.log 10 a.used.length + 1),
      a.choose raw = a.variant base n ∧ a.variant base n ∉ a.used := by
  intro base
  by_cases hused : base ∈ a.used
  · obtain ⟨n, -, hn, heq, hnew, -⟩ := choose_of_mem_used hused
    exact .inr ⟨n, hn, heq, hnew⟩
  · exact .inl ⟨choose_of_not_mem_used hused, hused⟩

theorem choose_not_mem_used (a : NameAllocator) (raw : String) : a.choose raw ∉ a.used := by
  rcases choose_cases a raw with ⟨heq, hnew⟩ | ⟨n, -, heq, hnew⟩ <;> rwa [heq]

/-! ## The grammar -/

/-- A name is an identifier of the style, within the length bound. -/
def Fits (a : NameAllocator) (name : String) : Prop :=
  a.style.accepts name = true ∧ name.length ≤ a.maxLength

theorem fits_variant {n : Nat} (hbase : a.style.accepts base = true)
    (hroom : (suffix a.style n).length < a.maxLength) : a.Fits (a.variant base n) := by
  constructor
  · unfold IdentifierStyle.accepts at hbase ⊢
    rw [toList_variant]
    refine IdentifierStyle.acceptsChars_append
      (IdentifierStyle.acceptsChars_take hbase (by omega)) fun c hc => isRest_of_mem_suffix hc
  · have hcut := List.length_take_le (a.maxLength - (suffix a.style n).length) base.toList
    rw [← String.length_toList, toList_variant, List.length_append]
    omega

theorem fits_choose {raw : String} (hbound : 21 ≤ a.maxLength) (hfew : a.used.length < 10 ^ 18) :
    a.Fits (a.choose raw) := by
  have hbase := Identifier.accepts_sanitize a.style raw a.maxLength
  have hlength := Identifier.length_sanitize_le a.style raw a.maxLength
  rcases choose_cases a raw with ⟨heq, -⟩ | ⟨n, hn, heq, -⟩
  · rw [heq]
    exact ⟨hbase, by omega⟩
  · rw [heq]
    refine fits_variant hbase ?_
    have hlog : Nat.log 10 a.used.length + 1 ≤ 18 := by
      by_cases hzero : a.used.length = 0
      · simp [hzero]
      · exact Nat.log_lt_of_lt_pow hzero hfew
    have hpow : 10 ^ (Nat.log 10 a.used.length + 1) ≤ 10 ^ 18 :=
      Nat.pow_le_pow_right (by decide) hlog
    have hdigits : (Decimal.digitText n).length ≤ 19 := length_digitText_le (by omega) (by decide)
    have := length_suffix_le a.style n
    omega

/-! ## Runs -/

@[simp] theorem allocateAll_nil (a : NameAllocator) : a.allocateAll [] = ([], a) := rfl

theorem allocateAll_cons (a : NameAllocator) (raw : String) (rest : List String) :
    (a.allocateAll (raw :: rest)).1 =
      a.choose raw :: ((a.allocate raw).2.allocateAll rest).1 := rfl

@[simp] theorem used_allocate (a : NameAllocator) (raw : String) :
    (a.allocate raw).2.used = a.choose raw :: a.used := rfl

theorem length_allocateAll (a : NameAllocator) (raws : List String) :
    (a.allocateAll raws).1.length = raws.length := by
  induction raws generalizing a with
  | nil => rfl
  | cons raw rest ih => rw [allocateAll_cons, List.length_cons, ih, List.length_cons]

theorem not_mem_used_of_mem_allocateAll {raws : List String} {name : String}
    (h : name ∈ (a.allocateAll raws).1) : name ∉ a.used := by
  induction raws generalizing a with
  | nil => simp at h
  | cons raw rest ih =>
    rw [allocateAll_cons] at h
    rcases List.mem_cons.1 h with rfl | h
    · exact choose_not_mem_used a raw
    · exact fun hused => ih h (List.mem_cons_of_mem _ hused)

theorem nodup_allocateAll (a : NameAllocator) (raws : List String) :
    (a.allocateAll raws).1.Nodup := by
  induction raws generalizing a with
  | nil => exact List.nodup_nil
  | cons raw rest ih =>
    rw [allocateAll_cons]
    refine List.nodup_cons.2 ⟨fun h => ?_, ih _⟩
    exact not_mem_used_of_mem_allocateAll h (List.mem_cons_self ..)

theorem fits_of_mem_allocateAll {raws : List String} (hbound : 21 ≤ a.maxLength)
    (hfew : a.used.length + raws.length < 10 ^ 18) {name : String}
    (h : name ∈ (a.allocateAll raws).1) : a.Fits name := by
  induction raws generalizing a with
  | nil => simp at h
  | cons raw rest ih =>
    rw [List.length_cons] at hfew
    rw [allocateAll_cons] at h
    rcases List.mem_cons.1 h with rfl | h
    · exact fits_choose hbound (by omega)
    · exact ih (a := (a.allocate raw).2) hbound (by rw [used_allocate, List.length_cons]; omega) h

theorem maxIdentifierLength_ge (target : Target) : 21 ≤ target.maxIdentifierLength := by
  cases target <;> decide

/-- **Names of a run.** Within 21 characters or more, and for fewer than `10 ^ 18` names in all,
the names handed out are pairwise distinct, none is reserved, and each is an identifier of the
style within the bound. Every target has such a bound. -/
theorem allocated_names_distinct_wellFormed :
    (∀ target : Target, 21 ≤ target.maxIdentifierLength) ∧
    ∀ (style : IdentifierStyle) (maxLength : Nat) (reserved raws : List String),
      21 ≤ maxLength → reserved.length + raws.length < 10 ^ 18 →
      let names := (allocateAll { maxLength, style, used := reserved } raws).1
      names.length = raws.length ∧ names.Nodup ∧ (∀ name ∈ names, name ∉ reserved) ∧
        ∀ name ∈ names, style.accepts name = true ∧ name.length ≤ maxLength ∧
          Text.byteSize name.toList = name.length := by
  refine ⟨maxIdentifierLength_ge, fun style maxLength reserved raws hbound hfew => ?_⟩
  refine ⟨length_allocateAll _ raws, nodup_allocateAll _ raws,
    fun name hname => not_mem_used_of_mem_allocateAll hname, fun name hname => ?_⟩
  obtain ⟨haccepts, hlength⟩ := fits_of_mem_allocateAll
    (a := { maxLength, style, used := reserved }) hbound hfew hname
  refine ⟨haccepts, hlength, ?_⟩
  rw [IdentifierStyle.byteSize_of_acceptsChars haccepts, String.length_toList]

theorem allocated_names_default :
    (21 ≤ 24 ∧ ["default"].length + 4 < 10 ^ 18) ∧
    ∃ names, names = ["default_2", "default_2_2", "default_3", "_9lives"] ∧
      (allocateAll { maxLength := 24, style := .snake, used := ["default"] }
        ["Default", "default_2", "default", "9lives"]).1 = names ∧ names.Nodup := by
  have h := allocated_names_distinct_wellFormed.2 .snake 24 ["default"]
    ["Default", "default_2", "default", "9lives"] (by decide) (by decide)
  have hrun : (allocateAll { maxLength := 24, style := .snake, used := ["default"] }
      ["Default", "default_2", "default", "9lives"]).1 =
        ["default_2", "default_2_2", "default_3", "_9lives"] := by
    decide +kernel
  refine ⟨⟨by decide, by decide⟩, _, rfl, hrun, ?_⟩
  rw [← hrun]
  exact h.2.1

end CloudGraph.NameAllocator

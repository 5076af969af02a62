import CloudGraph.Json.Raw
import CloudGraph.Proofs.Json.Grammar
import Mathlib.Data.List.DropRight
import Mathlib.Data.List.TakeDrop

/-!
# Reading blanks, texts and numbers

What the readers of texts and numbers take off the front of their input is a text or a number of
the grammar, and they take every one. Whatever may stand behind a text, its reader stops at the
closing quote. A number has no end of its own: its reader takes all of it only where no character
that may go on a number (`IsNumberPart`) stands behind it, which holds behind every value of an
array or object.
-/

namespace CloudGraph.Raw

open Json Text

/-! ## Blanks -/

theorem exists_blanks (cs : List Char) : ∃ b, IsBlanks b ∧ cs = b ++ skipBlank cs := by
  refine ⟨cs.takeWhile isJsonBlank, ?_, List.takeWhile_append_dropWhile.symm⟩
  intro c hc
  have := List.mem_takeWhile_imp hc
  grind [isJsonBlank]

theorem skipBlank_append {b : List Char} (hb : IsBlanks b) (cs : List Char) :
    skipBlank (b ++ cs) = skipBlank cs := by
  refine List.dropWhile_append_of_pos fun c hc => ?_
  obtain rfl | rfl | rfl | rfl := hb c hc <;> rfl

theorem skipBlank_skipBlank (cs : List Char) : skipBlank (skipBlank cs) = skipBlank cs :=
  List.dropWhile_idempotent _ _

/-! ## Texts -/

theorem isSome_hexValue? {c : Char} : (hexValue? c).isSome ↔ IsHexDigit c := by
  unfold hexValue? IsHexDigit
  split_ifs <;> simp_all

theorem hexValue?_lt {c : Char} {n : Nat} (h : hexValue? c = some n) : n < 16 := by
  unfold hexValue? at h
  split_ifs at h with h₁ h₂ h₃ <;> injection h with h <;> subst h
  · have : c.toNat ≤ 57 := h₁.2
    simp; omega
  · have : c.toNat ≤ 102 := h₂.2
    simp; omega
  · have : c.toNat ≤ 70 := h₃.2
    simp; omega

theorem digitValue?_sixteen (c : Char) : digitValue? 16 c = hexValue? c := by
  unfold digitValue?
  cases h : hexValue? c with
  | none => rfl
  | some n => simp [hexValue?_lt h]

theorem isSome_codeUnit? {a b c d : Char} :
    (codeUnit? a b c d).isSome ↔ IsHexDigit a ∧ IsHexDigit b ∧ IsHexDigit c ∧ IsHexDigit d := by
  simp only [← isSome_hexValue?, codeUnit?, valueOfDigits?, List.foldlM, digitValue?_sixteen]
  cases hexValue? a <;> cases hexValue? b <;> cases hexValue? c <;> cases hexValue? d <;> simp

theorem isSome_simpleEscape? {c : Char} :
    (simpleEscape? c).isSome ↔ c ∈ ['"', '\\', '/', 'b', 'f', 'n', 'r', 't'] := by
  unfold simpleEscape?
  split <;> simp_all

/-- The characters of some units, and the quote behind them. -/
def Quoted (cs rest : List Char) : Prop :=
  ∃ units : List (List Char), (∀ u ∈ units, IsTextUnit u) ∧ cs = units.flatten ++ '"' :: rest

theorem Quoted.unit {u cs rest : List Char} (hu : IsTextUnit u) (h : Quoted cs rest) :
    Quoted (u ++ cs) rest := by
  obtain ⟨units, hunits, rfl⟩ := h
  exact ⟨u :: units, List.forall_mem_cons.mpr ⟨hu, hunits⟩, by simp⟩

theorem quoted_of_unitsFrom {cs rest : List Char} {us : List TextUnit}
    (h : unitsFrom cs = some (us, rest)) : Quoted cs rest := by
  induction cs using unitsFrom.induct generalizing us with
  | case1 => simp [unitsFrom] at h
  | case2 tail =>
    obtain ⟨-, rfl⟩ := by simpa [unitsFrom] using h
    exact ⟨[], by simp⟩
  | case3 a b c d tail ih =>
    obtain ⟨n, hn, us', hus', -⟩ := by simpa [unitsFrom, Option.bind_eq_some_iff] using h
    obtain ⟨ha, hb, hc, hd⟩ := isSome_codeUnit?.mp (Option.isSome_of_eq_some hn)
    exact .unit (.code ha hb hc hd) (ih hus')
  | case4 e tail hcode ih =>
    rw [unitsFrom.eq_4 _ _ hcode] at h
    obtain ⟨c, hc, us', hus', -⟩ := by simpa [Option.bind_eq_some_iff] using h
    exact .unit (.escape (isSome_simpleEscape?.mp (Option.isSome_of_eq_some hc))) (ih hus')
  | case5 c tail hquote hcode hescape hc => simp [unitsFrom, hc] at h
  | case6 c tail hquote hcode hescape hc ih =>
    rw [unitsFrom.eq_5 _ _ hquote hcode hescape, if_neg hc] at h
    obtain ⟨us', hus', -⟩ := by simpa [Option.bind_eq_some_iff] using h
    obtain ⟨hcontrol, hbackslash⟩ := not_or.mp hc
    exact .unit (.plain hquote hbackslash (not_lt.mp hcontrol)) (ih hus')

theorem exists_unitsFrom_unit {u : List Char} (h : IsTextUnit u) (cs : List Char) :
    ∃ x, unitsFrom (u ++ cs) = (unitsFrom cs).map fun r => (x :: r.1, r.2) := by
  cases h with
  | @plain c hquote hbackslash hcontrol =>
    refine ⟨.char c, ?_⟩
    have hc : ¬ (c.toNat < 0x20 ∨ c = '\\') := not_or.mpr ⟨not_lt.mpr hcontrol, hbackslash⟩
    rw [List.singleton_append, unitsFrom.eq_5 _ _ hquote (by simp [hbackslash])
      (by simp [hbackslash]), if_neg hc]
    cases unitsFrom cs <;> rfl
  | @escape e he =>
    obtain ⟨c, hc⟩ := Option.isSome_iff_exists.mp (isSome_simpleEscape?.mpr he)
    have hne : e ≠ 'u' := by rintro rfl; revert he; decide
    refine ⟨.char c, ?_⟩
    rw [List.cons_append, List.singleton_append, unitsFrom.eq_4 _ _ (by simp [hne]), hc]
    cases unitsFrom cs <;> rfl
  | @code a b c d ha hb hc hd =>
    obtain ⟨n, hn⟩ := Option.isSome_iff_exists.mp (isSome_codeUnit?.mpr ⟨ha, hb, hc, hd⟩)
    refine ⟨.code n, ?_⟩
    simp only [List.cons_append, List.nil_append, unitsFrom, hn]
    cases unitsFrom cs <;> rfl

theorem exists_unitsFrom {cs rest : List Char} (h : Quoted cs rest) :
    ∃ us, unitsFrom cs = some (us, rest) := by
  obtain ⟨units, hunits, rfl⟩ := h
  induction units with
  | nil => exact ⟨[], by simp [unitsFrom]⟩
  | cons u units ih =>
    obtain ⟨hu, hunits⟩ := List.forall_mem_cons.mp hunits
    obtain ⟨us, hus⟩ := ih hunits
    obtain ⟨x, hx⟩ := exists_unitsFrom_unit hu (units.flatten ++ '"' :: rest)
    exact ⟨x :: us, by rw [List.flatten_cons, List.append_assoc, hx, hus, Option.map_some]⟩

theorem exists_text_of_textFrom {cs rest : List Char} {s : Option String}
    (h : textFrom cs = some (s, rest)) : ∃ t, IsText t ∧ '"' :: cs = t ++ rest := by
  obtain ⟨us, hus, -⟩ := by simpa [textFrom, Option.bind_eq_some_iff] using h
  obtain ⟨units, hunits, rfl⟩ := quoted_of_unitsFrom hus
  exact ⟨_, ⟨units, hunits, rfl⟩, by simp⟩

theorem exists_textFrom {t : List Char} (h : IsText t) :
    ∃ body, t = '"' :: body ∧ ∀ rest, ∃ s, textFrom (body ++ rest) = some (s, rest) := by
  obtain ⟨units, hunits, rfl⟩ := h
  refine ⟨units.flatten ++ ['"'], rfl, fun rest => ?_⟩
  have hquoted : Quoted (units.flatten ++ ['"'] ++ rest) rest := ⟨units, hunits, by simp⟩
  obtain ⟨us, hus⟩ := exists_unitsFrom hquoted
  exact ⟨(joinUnits us).map String.ofList, by rw [textFrom, hus]; rfl⟩

/-! ## Numbers -/

theorem spanDigits_eq (cs : List Char) :
    spanDigits cs = (cs.takeWhile Char.isDigit, cs.dropWhile Char.isDigit) :=
  List.span_eq_takeWhile_dropWhile ..

theorem digits_of_spanDigits {cs ds rest : List Char} (h : spanDigits cs = (ds, rest))
    (hne : ds ≠ []) : IsDigits ds ∧ cs = ds ++ rest := by
  rw [spanDigits_eq] at h
  cases h
  exact ⟨⟨hne, fun _ => List.mem_takeWhile_imp⟩, List.takeWhile_append_dropWhile.symm⟩

/-- The next character, if there is one, does not have a property. -/
def NotAhead (p : Char → Prop) (rest : List Char) : Prop :=
  ∀ c ∈ rest.head?, ¬ p c

theorem NotAhead.append {p : Char → Prop} {t rest : List Char} (h : NotAhead p t)
    (hrest : NotAhead p rest) : NotAhead p (t ++ rest) := by
  cases t with
  | nil => exact hrest
  | cons c t => exact h

theorem NotAhead.mono {p q : Char → Prop} {rest : List Char} (h : NotAhead p rest)
    (hpq : ∀ c, q c → p c) : NotAhead q rest := fun c hc hq => h c hc (hpq c hq)

theorem spanDigits_append {ds rest : List Char} (h : IsDigits ds)
    (hrest : NotAhead (·.isDigit = true) rest) : spanDigits (ds ++ rest) = (ds, rest) := by
  rw [spanDigits_eq, List.takeWhile_append_of_pos h.2, List.dropWhile_append_of_pos h.2]
  cases rest with
  | nil => simp
  | cons c rest =>
    have hc : c.isDigit = false := Bool.eq_false_iff.mpr (hrest c rfl)
    simp [hc]

theorem exists_fraction_of_fractionFrom {cs ds rest : List Char}
    (h : fractionFrom cs = some (ds, rest)) : ∃ t, IsFraction t ∧ cs = t ++ rest := by
  unfold fractionFrom at h
  split at h
  next tail =>
    split at h
    next => cases h
    next r hne =>
      have hspan := Option.some.inj h
      obtain ⟨hds, rfl⟩ := digits_of_spanDigits hspan fun hnil => hne rest (by rw [hspan, hnil])
      exact ⟨_, .inr ⟨_, hds, rfl⟩, rfl⟩
  next => cases h; exact ⟨[], .inl rfl, rfl⟩

theorem exists_fractionFrom {t rest : List Char} (h : IsFraction t)
    (hdigit : NotAhead (·.isDigit = true) rest) (hpoint : NotAhead (· = '.') rest) :
    ∃ ds, fractionFrom (t ++ rest) = some (ds, rest) := by
  obtain rfl | ⟨ds, hds, rfl⟩ := h
  · refine ⟨[], ?_⟩
    rw [List.nil_append, fractionFrom.eq_2]
    rintro tail rfl
    exact hpoint '.' rfl rfl
  · obtain ⟨d, ds, rfl⟩ := List.exists_cons_of_ne_nil hds.1
    exact ⟨d :: ds, by rw [List.cons_append, fractionFrom, spanDigits_append hds hdigit]⟩

theorem exists_power_of_powerFrom {cs rest : List Char} {power : Option (Bool × List Char)}
    (h : powerFrom cs = some (power, rest)) : ∃ t, IsPower t ∧ cs = t ++ rest := by
  have empty : ∃ t, IsPower t ∧ cs = t ++ cs := ⟨[], .inl rfl, rfl⟩
  cases cs with
  | nil => cases h; exact empty
  | cons c tail =>
    simp only [powerFrom] at h
    split at h
    next he =>
      split at h <;> split at h
      next => cases h
      next ds r hne heq =>
        cases h
        obtain ⟨hds, rfl⟩ := digits_of_spanDigits heq hne
        exact ⟨_, .inr ⟨c, ['+'], ds, he, by simp, hds, rfl⟩, by simp⟩
      next => cases h
      next ds r hne heq =>
        cases h
        obtain ⟨hds, rfl⟩ := digits_of_spanDigits heq hne
        exact ⟨_, .inr ⟨c, ['-'], ds, he, by simp, hds, rfl⟩, by simp⟩
      next => cases h
      next ds r hne heq =>
        cases h
        obtain ⟨hds, rfl⟩ := digits_of_spanDigits heq hne
        exact ⟨_, .inr ⟨c, [], ds, he, by simp, hds, rfl⟩, by simp⟩
    next => cases h; exact empty

theorem exists_powerFrom {t rest : List Char} (h : IsPower t)
    (hdigit : NotAhead (·.isDigit = true) rest) (he : NotAhead (fun c => c = 'e' ∨ c = 'E') rest) :
    ∃ power, powerFrom (t ++ rest) = some (power, rest) := by
  obtain rfl | ⟨e, sign, ds, he, hsign, hds, rfl⟩ := h
  · refine ⟨none, ?_⟩
    cases rest with
    | nil => rfl
    | cons c tail => exact if_neg (he c rfl)
  · have hspan := spanDigits_append hds hdigit
    obtain ⟨d, ds, rfl⟩ := List.exists_cons_of_ne_nil hds.1
    have hd : d.isDigit = true := hds.2 d (by simp)
    have hplus : d ≠ '+' := by rintro rfl; revert hd; decide
    have hminus : d ≠ '-' := by rintro rfl; revert hd; decide
    rw [List.cons_append] at hspan
    obtain rfl | rfl | rfl := hsign
    · exact ⟨some (false, d :: ds), by simp [powerFrom, he, hspan, hplus, hminus]⟩
    · exact ⟨some (false, d :: ds), by simp [powerFrom, he, hspan]⟩
    · exact ⟨some (true, d :: ds), by simp [powerFrom, he, hspan]⟩

theorem numberFrom_of_isWhole (negative : Bool) {cs whole rest : List Char} (h : IsWhole whole)
    (hspan : spanDigits cs = (whole, rest)) : numberFrom negative cs = do
      let (fraction, rest) ← fractionFrom rest
      let (power, rest) ← powerFrom rest
      return (NumberText.number? ⟨negative, whole, fraction, power⟩, rest) := by
  obtain ⟨⟨hne, -⟩, hzero⟩ := h
  obtain ⟨d, ds, rfl⟩ := List.exists_cons_of_ne_nil hne
  by_cases hd : d = '0'
  · obtain ⟨-, rfl⟩ := List.cons.inj (hzero (by simp [hd]))
    subst hd
    simp [numberFrom, hspan]
  · simp [numberFrom, hspan, hd]

theorem isWhole_of_numberFrom {negative : Bool} {cs rest : List Char} {n : Option Number}
    (h : numberFrom negative cs = some (n, rest)) :
    ∃ whole r, IsWhole whole ∧ spanDigits cs = (whole, r) ∧ cs = whole ++ r := by
  obtain ⟨⟨whole, r⟩, hspan⟩ : ∃ p, spanDigits cs = p := ⟨_, rfl⟩
  have hne : whole ≠ [] := by
    rintro rfl
    rw [numberFrom, hspan] at h
    cases h
  obtain ⟨hwhole, heq⟩ := digits_of_spanDigits hspan hne
  refine ⟨whole, r, ⟨hwhole, fun hzero => ?_⟩, hspan, heq⟩
  obtain ⟨d, ds, rfl⟩ := List.exists_cons_of_ne_nil hne
  obtain rfl : d = '0' := by simpa using hzero
  cases ds with
  | nil => rfl
  | cons d' ds =>
    rw [numberFrom, hspan] at h
    cases h

theorem exists_number_of_numberFrom {negative : Bool} {cs rest : List Char} {n : Option Number}
    (h : numberFrom negative cs = some (n, rest)) :
    ∃ whole fraction power, IsWhole whole ∧ IsFraction fraction ∧ IsPower power ∧
      cs = whole ++ fraction ++ power ++ rest := by
  obtain ⟨whole, r, hwhole, hspan, rfl⟩ := isWhole_of_numberFrom h
  rw [numberFrom_of_isWhole negative hwhole hspan] at h
  obtain ⟨⟨_, r⟩, hf, hrest⟩ := Option.bind_eq_some_iff.mp h
  obtain ⟨⟨_, r'⟩, hp, hresult⟩ := Option.bind_eq_some_iff.mp hrest
  obtain ⟨fraction, hfraction, rfl⟩ := exists_fraction_of_fractionFrom hf
  obtain ⟨power, hpower, rfl⟩ := exists_power_of_powerFrom hp
  obtain ⟨-, rfl⟩ := Prod.mk.inj (Option.some.inj hresult)
  exact ⟨whole, fraction, power, hwhole, hfraction, hpower, by simp⟩

/-- A character that may go on a number. -/
def IsNumberPart (c : Char) : Prop :=
  c.isDigit = true ∨ c = '.' ∨ c = 'e' ∨ c = 'E'

instance (c : Char) : Decidable (IsNumberPart c) :=
  inferInstanceAs (Decidable (_ ∨ _))

theorem exists_numberFrom (negative : Bool) {whole fraction power rest : List Char}
    (hwhole : IsWhole whole) (hfraction : IsFraction fraction) (hpower : IsPower power)
    (hrest : NotAhead IsNumberPart rest) :
    ∃ n, numberFrom negative (whole ++ fraction ++ power ++ rest) = some (n, rest) := by
  have hfraction' : NotAhead (·.isDigit = true) fraction := by
    obtain rfl | ⟨_, -, rfl⟩ := hfraction <;> simp [NotAhead]
  have hpower' : NotAhead (fun c => c.isDigit = true ∨ c = '.') power := by
    obtain rfl | ⟨e, _, _, he, -, -, rfl⟩ := hpower
    · simp [NotAhead]
    · obtain rfl | rfl := he <;> simp [NotAhead]
  have hdigit : NotAhead (·.isDigit = true) rest := hrest.mono fun _ => .inl
  have hdigit' : NotAhead (·.isDigit = true) (power ++ rest) :=
    (hpower'.mono fun _ => .inl).append hdigit
  have hpoint : NotAhead (· = '.') (power ++ rest) :=
    (hpower'.mono fun _ => .inr).append (hrest.mono fun _ h => .inr (.inl h))
  obtain ⟨p, hp⟩ := exists_powerFrom hpower hdigit (hrest.mono fun _ h => .inr (.inr h))
  obtain ⟨f, hf⟩ := exists_fractionFrom hfraction hdigit' hpoint
  have hspan := spanDigits_append hwhole.1 (hfraction'.append hdigit')
  refine ⟨NumberText.number? ⟨negative, whole, f, p⟩, ?_⟩
  rw [List.append_assoc, List.append_assoc, numberFrom_of_isWhole negative hwhole hspan, hf]
  simp [hp]

end CloudGraph.Raw

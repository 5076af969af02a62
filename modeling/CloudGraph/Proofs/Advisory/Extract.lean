import CloudGraph.Advisory.Extract
import CloudGraph.Proofs.Json.Reader

/-!
# The array that the scan takes is the array that was written

**Theorem (`firstArray?_around`).** Between words that hold no `[` and any words behind, the scan
finds a JSON array as it was written: to its last character, and no further.

The proof is an induction over the grammar with the invariant `Balanced`: with at least one bracket
open, the scan goes over a value without an end and is behind it as it was in front. A text keeps
the invariant because nothing inside it closes a bracket, and because each unit of it leads from
inside the text to inside the text: an escaped quote or backslash is one unit with the backslash
in front of it, so the closing quote is never taken for an escaped one.
-/

namespace CloudGraph.Advisory

open Json

/-! ## Scanning over a part of a text -/

/-- The scan takes all of `cs` on its way from one state to another. -/
def Passes (s : Scan) (cs : List Char) (s' : Scan) : Prop :=
  ∀ rest, s.takeBalanced (cs ++ rest) = (s'.takeBalanced rest).map (cs ++ ·)

namespace Passes

variable {s s' s'' : Scan} {c : Char} {cs ds : List Char}

theorem nil (s : Scan) : Passes s [] s := fun rest => by simp

theorem append (h : Passes s cs s') (h' : Passes s' ds s'') : Passes s (cs ++ ds) s'' := by
  intro rest
  rw [List.append_assoc, h, h', Option.map_map]
  simp [Function.comp_def]

theorem cons (hc : s.closes c = false) (h : Passes (s.step c) cs s') : Passes s (c :: cs) s' := by
  intro rest
  rw [List.cons_append, Scan.takeBalanced, if_neg (by simp [hc]), h, Option.map_map]
  rfl

end Passes

/-! ## Inside a text -/

theorem closes_of_quoting_ne {s : Scan} (h : s.quoting ≠ .outside) (c : Char) :
    s.closes c = false := by
  simp [Scan.closes, h]

theorem step_inside {c : Char} (hquote : c ≠ '"') (hbackslash : c ≠ '\\') (d : Nat) :
    Scan.step ⟨d, .inside⟩ c = ⟨d, .inside⟩ := by
  simp [Scan.step, hquote, hbackslash]

theorem passes_plain {cs : List Char} (h : ∀ c ∈ cs, c ≠ '"' ∧ c ≠ '\\') (d : Nat) :
    Passes ⟨d, .inside⟩ cs ⟨d, .inside⟩ := by
  induction cs with
  | nil => exact .nil _
  | cons c cs ih =>
    obtain ⟨hc, hcs⟩ := List.forall_mem_cons.mp h
    refine .cons (closes_of_quoting_ne (by simp) c) ?_
    rw [step_inside hc.1 hc.2]
    exact ih hcs

/-- Whatever is behind a backslash, the scan is inside the text again behind it. -/
theorem passes_escaped {cs : List Char} (c : Char) (h : ∀ c ∈ cs, c ≠ '"' ∧ c ≠ '\\') (d : Nat) :
    Passes ⟨d, .inside⟩ ('\\' :: c :: cs) ⟨d, .inside⟩ :=
  .cons (closes_of_quoting_ne (by simp) _)
    (.cons (closes_of_quoting_ne (by simp [Scan.step]) c) (passes_plain h d))

theorem passes_textUnit {u : List Char} (h : IsTextUnit u) (d : Nat) :
    Passes ⟨d, .inside⟩ u ⟨d, .inside⟩ := by
  cases h with
  | plain hquote hbackslash => exact passes_plain (by simp [hquote, hbackslash]) d
  | @escape c => exact passes_escaped c (by simp) d
  | code ha hb hc hd =>
    refine passes_escaped 'u' ?_ d
    simp only [List.forall_mem_cons]
    exact ⟨ne_of_isHexDigit ha, ne_of_isHexDigit hb, ne_of_isHexDigit hc, ne_of_isHexDigit hd,
      List.forall_mem_nil _⟩

theorem passes_textUnits {units : List (List Char)} (h : ∀ u ∈ units, IsTextUnit u) (d : Nat) :
    Passes ⟨d, .inside⟩ units.flatten ⟨d, .inside⟩ := by
  induction units with
  | nil => exact .nil _
  | cons u units ih =>
    obtain ⟨hu, hunits⟩ := List.forall_mem_cons.mp h
    exact (passes_textUnit hu d).append (ih hunits)

/-! ## Balanced parts -/

/-- With a bracket open, the scan goes over `cs` and is behind it as it was in front. -/
def Balanced (cs : List Char) : Prop :=
  ∀ d, Passes ⟨d + 1, .outside⟩ cs ⟨d + 1, .outside⟩

/-- Neither a quote nor a bracket. -/
def isQuiet (c : Char) : Bool :=
  c ≠ '"' && c ≠ '[' && c ≠ ']'

namespace Balanced

variable {cs ds : List Char}

theorem append (h : Balanced cs) (h' : Balanced ds) : Balanced (cs ++ ds) := fun d =>
  (h d).append (h' d)

theorem cons {c : Char} (hc : isQuiet c = true) (h : Balanced cs) : Balanced (c :: cs) := by
  obtain ⟨⟨hquote, hopen⟩, hclose⟩ : (c ≠ '"' ∧ c ≠ '[') ∧ c ≠ ']' := by simpa [isQuiet] using hc
  intro d
  refine .cons (by simp [Scan.closes, hclose]) ?_
  have hstep : Scan.step ⟨d + 1, .outside⟩ c = ⟨d + 1, .outside⟩ := by
    simp [Scan.step, hquote, hopen, hclose]
  rw [hstep]
  exact h d

theorem of_quiet (h : cs.all isQuiet = true) : Balanced cs := by
  induction cs with
  | nil => exact fun d => .nil _
  | cons c cs ih =>
    obtain ⟨hc, hcs⟩ := (Bool.and_eq_true ..).mp h
    exact cons hc (ih hcs)

/-- What the scan goes over inside a text may stand between quotes. -/
theorem of_quoted (h : ∀ d, Passes ⟨d, .inside⟩ cs ⟨d, .inside⟩) :
    Balanced ('"' :: cs ++ ['"']) := by
  intro d
  have hopen : Passes ⟨d + 1, .outside⟩ ['"'] ⟨d + 1, .inside⟩ := .cons (by rfl) (.nil _)
  have hclose : Passes ⟨d + 1, .inside⟩ ['"'] ⟨d + 1, .outside⟩ := .cons (by rfl) (.nil _)
  exact (hopen.append (h (d + 1))).append hclose

theorem of_text (h : IsText cs) : Balanced cs := by
  obtain ⟨units, hunits, rfl⟩ := h
  exact .of_quoted (passes_textUnits hunits)

theorem bracketed (h : Balanced cs) : Balanced ('[' :: cs ++ [']']) := by
  intro d
  have hopen : Passes ⟨d + 1, .outside⟩ ['['] ⟨d + 2, .outside⟩ := .cons (by rfl) (.nil _)
  have hclose : Passes ⟨d + 2, .outside⟩ [']'] ⟨d + 1, .outside⟩ := .cons (by rfl) (.nil _)
  exact (hopen.append (h (d + 1))).append hclose

end Balanced

/-! ## The grammar is balanced -/

theorem balanced_blanks {b : List Char} (h : IsBlanks b) : Balanced b := by
  refine .of_quiet (List.all_eq_true.mpr fun c hc => ?_)
  obtain rfl | rfl | rfl | rfl := h c hc <;> decide

theorem isQuiet_of_isDigit {c : Char} (h : c.isDigit = true) : isQuiet c = true := by
  have hne : c ≠ '"' ∧ c ≠ '[' ∧ c ≠ ']' := by
    refine ⟨?_, ?_, ?_⟩ <;> rintro rfl <;> revert h <;> decide
  simp [isQuiet, hne]

theorem balanced_digits {ds : List Char} (h : IsDigits ds) : Balanced ds :=
  .of_quiet (List.all_eq_true.mpr fun c hc => isQuiet_of_isDigit (h.2 c hc))

theorem balanced_number {n : List Char} (h : IsNumber n) : Balanced n := by
  obtain ⟨sign, whole, fraction, power, hsign, hwhole, hfraction, hpower, rfl⟩ := h
  have hs : Balanced sign := .of_quiet (by obtain rfl | rfl := hsign <;> decide)
  have hf : Balanced fraction := by
    obtain rfl | ⟨ds, hds, rfl⟩ := hfraction
    · exact .of_quiet (by decide)
    · exact (balanced_digits hds).cons (by decide)
  have hp : Balanced power := by
    obtain rfl | ⟨e, sign, ds, he, hsign, hds, rfl⟩ := hpower
    · exact .of_quiet (by decide)
    · have he : Balanced [e] := .of_quiet (by obtain rfl | rfl := he <;> decide)
      have hsign : Balanced sign := .of_quiet (by obtain rfl | rfl | rfl := hsign <;> decide)
      exact (he.append hsign).append (balanced_digits hds)
  exact ((hs.append (balanced_digits hwhole.1)).append hf).append hp

theorem balanced_of_derives {x : Phrase} {cs : List Char} (h : Derives x cs) : Balanced cs := by
  induction h with
  | null | true | false => exact .of_quiet (by decide)
  | number h => exact balanced_number h
  | text h => exact .of_text h
  | array _ ih | object _ ih => exact ih
  | noElements hb => exact (balanced_blanks hb).bracketed
  | bracketed _ ih => exact ih.bracketed
  | noMembers hb =>
    have hclose : Balanced ['}'] := .of_quiet (by decide)
    exact ((balanced_blanks hb).cons (by decide)).append hclose
  | braced _ ih =>
    have hclose : Balanced ['}'] := .of_quiet (by decide)
    exact (ih.cons (by decide)).append hclose
  | padded hb _ hb' ih => exact ((balanced_blanks hb).append ih).append (balanced_blanks hb')
  | oneElement _ ih | oneMember _ ih => exact ih
  | moreElements _ _ ih ihs | moreMembers _ _ ih ihs => exact ih.append (ihs.cons (by decide))
  | named hb hk hb' _ ih =>
    have hname := ((balanced_blanks hb).append (.of_text hk)).append (balanced_blanks hb')
    exact hname.append (ih.cons (by decide))

/-! ## The array is found -/

theorem exists_balanced_of_isArray {a : List Char} (h : IsArray a) :
    ∃ body, Balanced body ∧ a = '[' :: body ++ [']'] := by
  cases h with
  | noElements hb => exact ⟨_, balanced_blanks hb, rfl⟩
  | bracketed h => exact ⟨_, balanced_of_derives h, rfl⟩

/-- Between brackets, what is balanced is taken to its last character and no further. -/
theorem Balanced.takeBalanced_bracketed {body : List Char} (h : Balanced body) (rest : List Char) :
    Scan.takeBalanced {} ('[' :: body ++ [']'] ++ rest) = some ('[' :: body ++ [']']) := by
  have hopen : Passes {} ['['] ⟨1, .outside⟩ := .cons (by rfl) (.nil _)
  have hend : Scan.takeBalanced ⟨1, .outside⟩ (']' :: rest) = some [']'] := rfl
  calc Scan.takeBalanced {} ('[' :: body ++ [']'] ++ rest)
      = Scan.takeBalanced {} ((['['] ++ body) ++ ']' :: rest) := by simp
    _ = (Scan.takeBalanced ⟨1, .outside⟩ (']' :: rest)).map (['['] ++ body ++ ·) :=
      hopen.append (h 0) _
    _ = some ('[' :: body ++ [']']) := by rw [hend]; rfl

theorem takeBalanced_of_isArray {a : List Char} (h : IsArray a) (rest : List Char) :
    Scan.takeBalanced {} (a ++ rest) = some a := by
  obtain ⟨body, hbody, rfl⟩ := exists_balanced_of_isArray h
  exact hbody.takeBalanced_bracketed rest

/-- Blanks in front of the array and behind it are part of the words around it. -/
theorem firstArray?_around (p a s : String) (hp : '[' ∉ p.toList) (ha : IsArray a.toList) :
    firstArray? (p ++ a ++ s) = some a := by
  have hskip : (p.toList ++ (a.toList ++ s.toList)).dropWhile (· ≠ '[') = a.toList ++ s.toList := by
    obtain ⟨body, -, heq⟩ := exists_balanced_of_isArray ha
    rw [List.dropWhile_append_of_pos (by grind), heq]
    simp
  unfold firstArray? firstArrayChars?
  rw [String.toList_append, String.toList_append, List.append_assoc, hskip,
    takeBalanced_of_isArray ha, Option.map_some, String.ofList_toList]

theorem firstArray?_around_quoted_brackets :
    firstArray? ("Found \"it\": " ++
        "[\x7b\"a\\\\\": \"use ] \\\" [x\"\x7d,\t[[ ], \"\\u005b\\\\\"], -1.5e3]" ++ " ] and [2]") =
      some "[\x7b\"a\\\\\": \"use ] \\\" [x\"\x7d,\t[[ ], \"\\u005b\\\\\"], -1.5e3]" :=
  firstArray?_around _ _ _ (by decide +kernel) (by decide +kernel)

end CloudGraph.Advisory

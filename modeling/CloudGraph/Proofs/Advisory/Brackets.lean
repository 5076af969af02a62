import CloudGraph.Proofs.Advisory.Extract

/-!
# The first opening bracket decides

**Theorem (`firstArray?_exact`).** The scan cuts out the balanced text that starts at the first
opening bracket. It finds nothing just if none starts there, even if one starts at a later bracket
(`firstArray?_first_unclosed`).

What is balanced is said without the scan: brackets stand in pairs around balanced parts, and a
quoted text counts as a whole (`Nested`).

* *Complete* (`Nested.balanced`): the scan goes over such a part without an end.
* *Sound* (`closing_of_takeBalanced`): what the scan takes with some brackets open closes them one
  after another, with balanced parts between (`Closing`). The induction is on the length of the
  text, because a quoted text is taken in one step (`exists_quoted_of_takeBalanced`).
-/

namespace CloudGraph.Advisory

/-- What may stand between quotes: no quote of its own, and any character behind a backslash. -/
inductive QuotedBody : List Char → Prop
  | nil : QuotedBody []
  | plain {c : Char} {cs : List Char} (hquote : c ≠ '"') (hbackslash : c ≠ '\\')
    (h : QuotedBody cs) : QuotedBody (c :: cs)
  | escaped (c : Char) {cs : List Char} (h : QuotedBody cs) : QuotedBody ('\\' :: c :: cs)

/-- A text in which each bracket has its partner, brackets in quoted texts left out. -/
inductive Nested : List Char → Prop
  | nil : Nested []
  | quiet {c : Char} {cs : List Char} (hc : isQuiet c = true) (h : Nested cs) : Nested (c :: cs)
  | quoted {q cs : List Char} (hq : QuotedBody q) (h : Nested cs) :
    Nested ('"' :: q ++ ['"'] ++ cs)
  | bracketed {inner cs : List Char} (hinner : Nested inner) (h : Nested cs) :
    Nested ('[' :: inner ++ [']'] ++ cs)

/-- A balanced text from an opening bracket to its partner. -/
def IsBracketed (cs : List Char) : Prop :=
  ∃ inner, Nested inner ∧ cs = '[' :: inner ++ [']']

/-! ## Balanced texts are taken -/

theorem QuotedBody.passes {q : List Char} (h : QuotedBody q) (d : Nat) :
    Passes ⟨d, .inside⟩ q ⟨d, .inside⟩ := by
  induction h with
  | nil => exact .nil _
  | @plain c cs hquote hbackslash _ ih =>
    have hplain : Passes ⟨d, .inside⟩ [c] ⟨d, .inside⟩ :=
      passes_plain (by simp [hquote, hbackslash]) d
    exact hplain.append ih
  | escaped c _ ih =>
    have hescaped : Passes ⟨d, .inside⟩ ['\\', c] ⟨d, .inside⟩ :=
      passes_escaped c (List.forall_mem_nil _) d
    exact hescaped.append ih

namespace Nested

variable {cs ds : List Char}

theorem balanced (h : Nested cs) : Balanced cs := by
  induction h with
  | nil => exact fun d => .nil _
  | quiet hc _ ih => exact ih.cons hc
  | quoted hq _ ih => exact (Balanced.of_quoted hq.passes).append ih
  | bracketed _ _ ihinner ih => exact ihinner.bracketed.append ih

theorem append (h : Nested cs) (h' : Nested ds) : Nested (cs ++ ds) := by
  induction h with
  | nil => exact h'
  | quiet hc _ ih => exact .quiet hc ih
  | quoted hq _ ih =>
    rw [List.append_assoc]
    exact .quoted hq ih
  | bracketed hinner _ _ ih =>
    rw [List.append_assoc]
    exact .bracketed hinner ih

end Nested

/-! ## What is taken is balanced -/

/-- A text that closes `d + 1` open brackets, the last of them with its last character. -/
inductive Closing : Nat → List Char → Prop
  | last {inner : List Char} (h : Nested inner) : Closing 0 (inner ++ [']'])
  | next {d : Nat} {inner cs : List Char} (h : Nested inner) (hnext : Closing d cs) :
    Closing (d + 1) (inner ++ ']' :: cs)

theorem Closing.prepend {d : Nat} {cs ds : List Char} (h : Nested cs) (h' : Closing d ds) :
    Closing d (cs ++ ds) := by
  cases h' with
  | last hinner =>
    rw [← List.append_assoc]
    exact .last (h.append hinner)
  | next hinner hnext =>
    rw [← List.append_assoc]
    exact .next (h.append hinner) hnext

namespace Scan

theorem takeBalanced_cons_of_not_closes {s : Scan} {c : Char} (h : s.closes c = false)
    (cs : List Char) : s.takeBalanced (c :: cs) = ((s.step c).takeBalanced cs).map (c :: ·) := by
  rw [takeBalanced, if_neg (by simp [h])]

theorem prefix_of_takeBalanced {s : Scan} {cs a : List Char} (h : s.takeBalanced cs = some a) :
    a <+: cs := by
  induction cs generalizing s a with
  | nil => cases h
  | cons c cs ih =>
    unfold takeBalanced at h
    split at h
    · cases h
      exact ⟨cs, rfl⟩
    · obtain ⟨b, hb, rfl⟩ := Option.map_eq_some_iff.1 h
      exact List.cons_prefix_cons.2 ⟨rfl, ih hb⟩

/-- From inside a text the scan goes on behind the closing quote. -/
theorem exists_quoted_of_takeBalanced {d : Nat} : (cs : List Char) → {a : List Char} →
    takeBalanced ⟨d, .inside⟩ cs = some a →
      ∃ q rest b, QuotedBody q ∧ cs = q ++ '"' :: rest ∧ a = q ++ '"' :: b ∧
        takeBalanced ⟨d, .outside⟩ rest = some b
  | [], _, h => by cases h
  | c :: cs, _, h => by
    rw [takeBalanced_cons_of_not_closes (closes_of_quoting_ne (by simp) c)] at h
    obtain ⟨b, hb, rfl⟩ := Option.map_eq_some_iff.1 h
    by_cases hquote : c = '"'
    · subst hquote
      exact ⟨[], cs, b, .nil, rfl, rfl, hb⟩
    by_cases hbackslash : c = '\\'
    · subst hbackslash
      cases cs with
      | nil => cases hb
      | cons e cs =>
        change takeBalanced ⟨d, .escaped⟩ (e :: cs) = some b at hb
        rw [takeBalanced_cons_of_not_closes (closes_of_quoting_ne (by simp) e)] at hb
        obtain ⟨tail, htail, rfl⟩ := Option.map_eq_some_iff.1 hb
        obtain ⟨q, rest, b, hq, rfl, rfl, hrest⟩ := exists_quoted_of_takeBalanced cs htail
        exact ⟨'\\' :: e :: q, rest, b, .escaped e hq, rfl, rfl, hrest⟩
    · rw [step_inside hquote hbackslash] at hb
      obtain ⟨q, rest, b, hq, rfl, rfl, hrest⟩ := exists_quoted_of_takeBalanced cs hb
      exact ⟨c :: q, rest, b, .plain hquote hbackslash hq, rfl, rfl, hrest⟩
termination_by cs => cs.length

end Scan

theorem closing_of_takeBalanced {d : Nat} : (cs : List Char) → {a : List Char} →
    Scan.takeBalanced ⟨d + 1, .outside⟩ cs = some a → Closing d a
  | [], _, h => by cases h
  | c :: cs, _, h => by
    by_cases hquote : c = '"'
    · subst hquote
      rw [Scan.takeBalanced_cons_of_not_closes (by rfl)] at h
      obtain ⟨b, hb, rfl⟩ := Option.map_eq_some_iff.1 h
      obtain ⟨q, rest, b, hq, rfl, rfl, hrest⟩ := Scan.exists_quoted_of_takeBalanced cs hb
      have hquoted : Nested ('"' :: q ++ ['"'] ++ []) := .quoted hq .nil
      simpa using (closing_of_takeBalanced rest hrest).prepend hquoted
    by_cases hopen : c = '['
    · subst hopen
      rw [Scan.takeBalanced_cons_of_not_closes (by rfl)] at h
      obtain ⟨b, hb, rfl⟩ := Option.map_eq_some_iff.1 h
      cases closing_of_takeBalanced (d := d + 1) cs hb with
      | next hinner hnext =>
        have hbracketed : Nested ('[' :: _ ++ [']'] ++ []) := .bracketed hinner .nil
        simpa using hnext.prepend hbracketed
    by_cases hclose : c = ']'
    · subst hclose
      cases d with
      | zero =>
        cases h
        exact .last .nil
      | succ d =>
        rw [Scan.takeBalanced_cons_of_not_closes (by rfl)] at h
        obtain ⟨b, hb, rfl⟩ := Option.map_eq_some_iff.1 h
        exact .next .nil (closing_of_takeBalanced cs hb)
    · rw [Scan.takeBalanced_cons_of_not_closes (by simp [Scan.closes, hclose])] at h
      obtain ⟨b, hb, rfl⟩ := Option.map_eq_some_iff.1 h
      have hstep : Scan.step ⟨d + 1, .outside⟩ c = ⟨d + 1, .outside⟩ := by
        simp [Scan.step, hquote, hopen, hclose]
      have hquiet : Nested [c] := .quiet (by simp [isQuiet, hquote, hopen, hclose]) .nil
      rw [hstep] at hb
      exact (closing_of_takeBalanced cs hb).prepend hquiet
termination_by cs => cs.length

/-! ## The first opening bracket -/

theorem takeBalanced_eq_some_iff {cs a : List Char} :
    Scan.takeBalanced {} ('[' :: cs) = some a ↔ IsBracketed a ∧ a <+: '[' :: cs := by
  constructor
  · intro h
    refine ⟨?_, Scan.prefix_of_takeBalanced h⟩
    rw [Scan.takeBalanced_cons_of_not_closes (by rfl)] at h
    obtain ⟨b, hb, rfl⟩ := Option.map_eq_some_iff.1 h
    cases closing_of_takeBalanced (d := 0) cs hb with
    | last hinner => exact ⟨_, hinner, rfl⟩
  · rintro ⟨⟨inner, hinner, rfl⟩, rest, hrest⟩
    rw [← hrest]
    exact hinner.balanced.takeBalanced_bracketed rest

theorem firstArrayChars?_eq_some_iff {cs a : List Char} :
    firstArrayChars? cs = some a ↔
      ∃ before after, cs = before ++ a ++ after ∧ '[' ∉ before ∧ IsBracketed a := by
  unfold firstArrayChars?
  constructor
  · intro h
    cases hdrop : cs.dropWhile (· ≠ '[') with
    | nil =>
      rw [hdrop] at h
      cases h
    | cons c rest =>
      have hfirst := List.head?_dropWhile_not (· ≠ '[') cs
      rw [hdrop] at h hfirst
      obtain rfl : c = '[' := by simpa using hfirst
      obtain ⟨ha, after, hafter⟩ := takeBalanced_eq_some_iff.1 h
      refine ⟨cs.takeWhile (· ≠ '['), after, ?_, fun hmem => ?_, ha⟩
      · rw [List.append_assoc, hafter, ← hdrop, List.takeWhile_append_dropWhile]
      · simpa using List.mem_takeWhile_imp hmem
  · rintro ⟨before, after, rfl, hbefore, inner, hinner, rfl⟩
    have hskip : (before ++ ('[' :: inner ++ [']']) ++ after).dropWhile (· ≠ '[') =
        '[' :: inner ++ [']'] ++ after := by
      rw [List.append_assoc, List.dropWhile_append_of_pos (by grind)]
      simp
    rw [hskip]
    exact hinner.balanced.takeBalanced_bracketed after

/-- **The first opening bracket decides.** What is cut out is the balanced text that starts at the
first opening bracket of the text. Nothing is cut out just if no balanced text starts there, so
each balanced text has an opening bracket somewhere in front of it. -/
theorem firstArray?_exact (text : String) :
    (∀ a, firstArray? text = some a ↔
      ∃ before after, text = before ++ a ++ after ∧ '[' ∉ before.toList ∧
        IsBracketed a.toList) ∧
    (firstArray? text = none ↔
      ∀ before a after, text = before ++ a ++ after → IsBracketed a.toList →
        '[' ∈ before.toList) := by
  have hsome : ∀ a, firstArray? text = some a ↔
      ∃ before after, text = before ++ a ++ after ∧ '[' ∉ before.toList ∧
        IsBracketed a.toList := by
    intro a
    unfold firstArray?
    constructor
    · intro h
      obtain ⟨cs, hcs, rfl⟩ := Option.map_eq_some_iff.1 h
      obtain ⟨before, after, htext, hbefore, ha⟩ := firstArrayChars?_eq_some_iff.1 hcs
      refine ⟨.ofList before, .ofList after, ?_, by simpa using hbefore, by simpa using ha⟩
      rw [← String.toList_inj]
      simpa using htext
    · rintro ⟨before, after, rfl, hbefore, ha⟩
      have hcs : firstArrayChars? (before ++ a ++ after).toList = some a.toList :=
        firstArrayChars?_eq_some_iff.2
          ⟨before.toList, after.toList, by simp, hbefore, ha⟩
      rw [hcs, Option.map_some, String.ofList_toList]
  refine ⟨hsome, ?_⟩
  rw [Option.eq_none_iff_forall_ne_some]
  constructor
  · intro hnone before a after htext ha
    by_contra hbefore
    exact hnone a ((hsome a).2 ⟨before, after, htext, hbefore, ha⟩)
  · intro hall a h
    obtain ⟨before, after, htext, hbefore, ha⟩ := (hsome a).1 h
    exact hbefore (hall before a after htext ha)

/-- A later bracket is not tried, though a balanced text starts there. -/
theorem firstArray?_first_unclosed :
    "Scores in [0, 10): [1]" = "Scores in [0, 10): " ++ "[1]" ++ "" ∧
      IsBracketed "[1]".toList ∧ firstArray? "Scores in [0, 10): [1]" = none :=
  ⟨rfl, ⟨['1'], .quiet (by decide) .nil, rfl⟩, by decide +kernel⟩

end CloudGraph.Advisory

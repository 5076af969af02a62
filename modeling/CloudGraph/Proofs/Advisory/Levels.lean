import CloudGraph.Proofs.Advisory.Brackets

/-!
# How many brackets are open

The scan counts open brackets in a natural number, which a closing bracket would have to take below
zero where none is open. `level` is the same count over the integers: opening brackets less closing
ones, those in quoted texts left out.

**Theorem (`firstArray?_levels`).** On its way the scan has the level of what it read as its depth,
and it meets a closing bracket only where the depth is positive. What it cuts out starts at the
first opening bracket and ends in a closing one, its level is 0, and the level of each shorter
piece from its start is positive (`ClosesLast`). There is no other such piece.

The induction over the text starts behind the first opening bracket. With a bracket open a step
changes depth and level alike (`depth_step`), and the scan goes on just as long as one stays open
(`closes_iff`).
-/

namespace CloudGraph.Advisory

/-- The characters outside quoted texts. -/
def unquoted : Quoting → List Char → List Char
  | _, [] => []
  | .outside, c :: cs => if c = '"' then unquoted .inside cs else c :: unquoted .outside cs
  | .inside, c :: cs =>
    if c = '\\' then unquoted .escaped cs
    else if c = '"' then unquoted .outside cs
    else unquoted .inside cs
  | .escaped, _ :: cs => unquoted .inside cs

/-- Opening brackets less closing ones, those in quoted texts left out. -/
def level (q : Quoting) (cs : List Char) : Int :=
  (unquoted q cs).count '[' - (unquoted q cs).count ']'

/-- A text from an opening bracket to the closing bracket behind which none is open any more. -/
structure ClosesLast (cs : List Char) : Prop where
  first : cs.head? = some '['
  last : cs.getLast? = some ']'
  balanced : level .outside cs = 0
  positive : ∀ p, p <+: cs → p ≠ [] → p ≠ cs → 0 < level .outside p

namespace Scan

variable {s : Scan} {c : Char} {cs p a : List Char}

/-! ## Levels along a scan -/

theorem unquoted_cons (s : Scan) (c : Char) (cs : List Char) :
    unquoted s.quoting (c :: cs) = unquoted s.quoting [c] ++ unquoted (s.step c).quoting cs := by
  obtain ⟨d, q⟩ := s
  cases q with
  | outside =>
    by_cases hquote : c = '"'
    · simp [unquoted, step, hquote]
    · simp only [unquoted, step, hquote, if_false]
      split_ifs <;> rfl
  | inside =>
    simp only [unquoted, step]
    split_ifs <;> rfl
  | escaped => rfl

@[simp] theorem level_nil (q : Quoting) : level q [] = 0 := by
  cases q <;> rfl

theorem level_cons (s : Scan) (c : Char) (cs : List Char) :
    level s.quoting (c :: cs) = level s.quoting [c] + level (s.step c).quoting cs := by
  unfold level
  rw [unquoted_cons, List.count_append, List.count_append]
  omega

theorem level_append (s : Scan) (p cs : List Char) :
    level s.quoting (p ++ cs) = level s.quoting p + level (s.run p).quoting cs := by
  induction p generalizing s with
  | nil => simp [run]
  | cons c p ih =>
    have hrun : s.run (c :: p) = (s.step c).run p := rfl
    rw [List.cons_append, level_cons, ih, level_cons s c p, hrun, Int.add_assoc]

/-- With a bracket open, a character counts for the depth what it counts for the level. -/
theorem depth_step (h : 0 < s.depth) (c : Char) :
    ((s.step c).depth : Int) = s.depth + level s.quoting [c] := by
  obtain ⟨d, q⟩ := s
  cases q with
  | outside =>
    by_cases hquote : c = '"'
    · simp [step, level, unquoted, hquote]
    by_cases hopen : c = '['
    · simp [step, level, unquoted, hopen]
    by_cases hclose : c = ']'
    · subst hclose
      show ((d - 1 : Nat) : Int) = d + -1
      have hpos : 0 < d := h
      omega
    · simp [step, level, unquoted, hquote, hopen, hclose]
  | inside =>
    by_cases hbackslash : c = '\\'
    · simp [step, level, unquoted, hbackslash]
    · by_cases hquote : c = '"' <;> simp [step, level, unquoted, hbackslash, hquote]
  | escaped => simp [step, level, unquoted]

/-- Only a closing bracket outside quoted texts lowers the level. -/
theorem of_level_neg {q : Quoting} (h : level q [c] < 0) : q = .outside ∧ c = ']' := by
  cases q with
  | outside =>
    refine ⟨rfl, ?_⟩
    by_contra hclose
    by_cases hquote : c = '"'
    · simp [level, unquoted, hquote] at h
    · simp only [level, unquoted, hquote, if_false, List.count_singleton, beq_iff_eq, hclose] at h
      omega
  | inside =>
    have hnone : unquoted .inside [c] = [] := by
      simp only [unquoted]
      split_ifs <;> rfl
    simp [level, hnone] at h
  | escaped => simp [level, unquoted] at h

theorem of_closes (h : s.closes c = true) :
    s.quoting = .outside ∧ c = ']' ∧ (s.step c).depth = 0 := by
  simpa only [closes, Bool.and_eq_true, decide_eq_true_eq, and_assoc] using h

/-- With a bracket open, the scan ends just where none stays open. -/
theorem closes_iff (h : 0 < s.depth) : s.closes c = true ↔ (s.step c).depth = 0 := by
  constructor
  · intro hcloses
    exact (of_closes hcloses).2.2
  · intro hdepth
    have hlevel : level s.quoting [c] < 0 := by
      have hstep := depth_step h c
      omega
    obtain ⟨hquoting, rfl⟩ := of_level_neg hlevel
    simp [closes, hquoting, hdepth]

/-! ## As long as the scan goes on -/

theorem takeBalanced_cons_eq_none_iff :
    s.takeBalanced (c :: cs) = none ↔ s.closes c = false ∧ (s.step c).takeBalanced cs = none := by
  by_cases hcloses : s.closes c = true
  · simp [takeBalanced, hcloses]
  · simp [takeBalanced, hcloses]

theorem takeBalanced_of_prefix (h : p <+: cs) (hcs : s.takeBalanced cs = none) :
    s.takeBalanced p = none := by
  induction p generalizing s cs with
  | nil => rfl
  | cons c p ih =>
    obtain ⟨rest, rfl⟩ := h
    obtain ⟨hcloses, hrest⟩ := takeBalanced_cons_eq_none_iff.1 hcs
    exact takeBalanced_cons_eq_none_iff.2 ⟨hcloses, ih (List.prefix_append p rest) hrest⟩

/-- While the scan goes on a bracket is open, and the depth has changed by the level. -/
theorem depth_run (h : 0 < s.depth) (hp : s.takeBalanced p = none) :
    0 < (s.run p).depth ∧ ((s.run p).depth : Int) = s.depth + level s.quoting p := by
  induction p generalizing s with
  | nil => exact ⟨h, by simp [run]⟩
  | cons c p ih =>
    obtain ⟨hcloses, hp⟩ := takeBalanced_cons_eq_none_iff.1 hp
    have hopen : 0 < (s.step c).depth := by
      apply Nat.pos_of_ne_zero
      intro hzero
      rw [(closes_iff h).2 hzero] at hcloses
      cases hcloses
    obtain ⟨hpos, hdepth⟩ := ih hopen hp
    have hrun : s.run (c :: p) = (s.step c).run p := rfl
    refine ⟨hpos, ?_⟩
    rw [hrun, hdepth, depth_step h, level_cons s c p, Int.add_assoc]

/-- The scan goes on as long as the levels say that a bracket is open. -/
theorem takeBalanced_eq_none_of_positive (h : 0 < s.depth)
    (hpos : ∀ q, q <+: p → 0 < s.depth + level s.quoting q) : s.takeBalanced p = none := by
  induction p generalizing s with
  | nil => rfl
  | cons c p ih =>
    have hdepth := depth_step h c
    have hfirst := hpos [c] (List.prefix_append [c] p)
    have hopen : 0 < (s.step c).depth := by omega
    refine takeBalanced_cons_eq_none_iff.2 ⟨?_, ih hopen fun q hq => ?_⟩
    · rw [← Bool.not_eq_true, closes_iff h]
      omega
    · have hlater := hpos (c :: q) (List.cons_prefix_cons.2 ⟨rfl, hq⟩)
      rw [level_cons] at hlater
      omega

theorem passes_run (hp : s.takeBalanced p = none) : Passes s p (s.run p) := by
  induction p generalizing s with
  | nil => exact .nil s
  | cons c p ih =>
    obtain ⟨hcloses, hp⟩ := takeBalanced_cons_eq_none_iff.1 hp
    exact .cons hcloses (ih hp)

/-- The scan ends with the first character that closes the last open bracket. -/
theorem takeBalanced_append (hp : s.takeBalanced p = none) (hc : (s.run p).closes c = true)
    (rest : List Char) : s.takeBalanced (p ++ c :: rest) = some (p ++ [c]) := by
  rw [passes_run hp, takeBalanced, if_pos hc]
  rfl

theorem exists_last_of_takeBalanced (h : s.takeBalanced cs = some a) :
    ∃ p c, a = p ++ [c] ∧ s.takeBalanced p = none ∧ (s.run p).closes c = true := by
  induction cs generalizing s a with
  | nil => cases h
  | cons d cs ih =>
    by_cases hcloses : s.closes d = true
    · rw [takeBalanced, if_pos hcloses] at h
      cases h
      exact ⟨[], d, rfl, rfl, hcloses⟩
    · rw [Bool.not_eq_true] at hcloses
      rw [takeBalanced_cons_of_not_closes hcloses] at h
      obtain ⟨b, hb, rfl⟩ := Option.map_eq_some_iff.1 h
      obtain ⟨p, c, rfl, hp, hc⟩ := ih hb
      exact ⟨d :: p, c, rfl, takeBalanced_cons_eq_none_iff.2 ⟨hcloses, hp⟩, hc⟩

end Scan

/-! ## From an opening bracket on -/

theorem level_bracket_cons (cs : List Char) :
    level .outside ('[' :: cs) = 1 + level .outside cs :=
  Scan.level_cons {} '[' cs

/-- Behind an opening bracket the scan has the level of what it read as its depth. -/
theorem depth_run_bracket {p : List Char} (hp : Scan.takeBalanced {} ('[' :: p) = none) :
    0 < (Scan.run {} ('[' :: p)).depth ∧
      ((Scan.run {} ('[' :: p)).depth : Int) = level .outside ('[' :: p) := by
  rw [level_bracket_cons]
  exact Scan.depth_run (s := ⟨1, .outside⟩) Nat.one_pos (Scan.takeBalanced_cons_eq_none_iff.1 hp).2

/-- What the scan takes up to its last character has the level of the depth behind it. -/
theorem depth_step_bracket {p : List Char} (hp : Scan.takeBalanced {} ('[' :: p) = none)
    (c : Char) :
    (((Scan.run {} ('[' :: p)).step c).depth : Int) = level .outside ('[' :: p ++ [c]) := by
  obtain ⟨hopen, hdepth⟩ := depth_run_bracket hp
  have happend : level .outside ('[' :: p ++ [c]) = _ := Scan.level_append {} ('[' :: p) [c]
  rw [happend, Scan.depth_step hopen, hdepth]

theorem closesLast_of_takeBalanced {cs a : List Char}
    (h : Scan.takeBalanced {} ('[' :: cs) = some a) : ClosesLast a := by
  have hprefix := Scan.prefix_of_takeBalanced h
  obtain ⟨p, c, rfl, hp, hc⟩ := Scan.exists_last_of_takeBalanced h
  cases p with
  | nil =>
    -- the opening bracket itself does not end the scan
    obtain ⟨rfl, -⟩ := List.cons_prefix_cons.1 hprefix
    cases hc
  | cons d p =>
    obtain ⟨rfl, -⟩ := List.cons_prefix_cons.1 hprefix
    obtain ⟨-, rfl, hend⟩ := Scan.of_closes hc
    refine ⟨rfl, List.getLast?_concat, ?_, fun q hq hne hshort => ?_⟩
    · rw [← depth_step_bracket hp, hend]
      rfl
    · cases q with
      | nil => exact absurd rfl hne
      | cons e q =>
        have hq : e :: q <+: '[' :: p := (List.prefix_concat_iff.1 hq).resolve_left hshort
        obtain ⟨rfl, -⟩ := List.cons_prefix_cons.1 hq
        have hlevel := depth_run_bracket (Scan.takeBalanced_of_prefix hq hp)
        omega

/-- Up to its last character the scan goes on, and there it ends. -/
theorem ClosesLast.takeBalanced_append {a : List Char} (h : ClosesLast a) (rest : List Char) :
    Scan.takeBalanced {} (a ++ rest) = some a := by
  obtain ⟨hfirst, -, hbalanced, hpositive⟩ := h
  obtain ⟨b, rfl⟩ : ∃ b, a = '[' :: b := List.head?_eq_some_iff.1 hfirst
  rcases List.eq_nil_or_concat' b with rfl | ⟨p, c, rfl⟩
  · -- the opening bracket alone has the level 1
    cases hbalanced
  · have hp : Scan.takeBalanced {} ('[' :: p) = none := by
      refine Scan.takeBalanced_cons_eq_none_iff.2 ⟨rfl, ?_⟩
      refine Scan.takeBalanced_eq_none_of_positive Nat.one_pos fun q hq => ?_
      have hwhole : '[' :: q <+: '[' :: (p ++ [c]) :=
        List.cons_prefix_cons.2 ⟨rfl, hq.trans (List.prefix_append p [c])⟩
      have hshort : '[' :: q ≠ '[' :: (p ++ [c]) := by
        intro heq
        have hlength := hq.length_le
        rw [(List.cons.inj heq).2, List.length_append, List.length_singleton] at hlength
        omega
      have hlevel := hpositive ('[' :: q) hwhole (List.cons_ne_nil _ _) hshort
      rw [level_bracket_cons] at hlevel
      exact hlevel
    have hcloses : (Scan.run {} ('[' :: p)).closes c = true := by
      have hend := depth_step_bracket hp c
      rw [Scan.closes_iff (depth_run_bracket hp).1]
      rw [List.cons_append, hbalanced] at hend
      omega
    have hsplit : '[' :: (p ++ [c]) ++ rest = '[' :: p ++ c :: rest := by simp
    rw [hsplit, Scan.takeBalanced_append hp hcloses]
    rfl

/-- What the grammar calls balanced is balanced by the levels. -/
theorem isBracketed_iff_closesLast {a : List Char} : IsBracketed a ↔ ClosesLast a := by
  constructor
  · rintro ⟨inner, hinner, rfl⟩
    exact closesLast_of_takeBalanced (hinner.balanced.takeBalanced_bracketed [])
  · intro h
    obtain ⟨b, rfl⟩ : ∃ b, a = '[' :: b := List.head?_eq_some_iff.1 h.first
    have htake := h.takeBalanced_append []
    rw [List.append_nil] at htake
    exact (takeBalanced_eq_some_iff.1 htake).1

/-! ## The array that is cut out -/

theorem firstArray?_eq_some_iff_chars {text r : String} :
    firstArray? text = some r ↔ firstArrayChars? text.toList = some r.toList := by
  unfold firstArray?
  rw [Option.map_eq_some_iff]
  constructor
  · rintro ⟨cs, hcs, rfl⟩
    rw [hcs, String.toList_ofList]
  · intro h
    exact ⟨r.toList, h, String.ofList_toList⟩

/-- **The depth never falls below zero, and what is cut out is balanced.** Wherever the scan of a
text goes on, its depth is the level of what it read, and positive where a closing bracket comes
next. A text is cut out just if it stands at the first opening bracket, its level is 0 at its end, a
closing bracket, and positive before. -/
theorem firstArray?_levels (text : String) :
    (∀ p c after, text.toList.dropWhile (· ≠ '[') = p ++ c :: after →
      Scan.takeBalanced {} p = none →
      ((Scan.run {} p).depth : Int) = level .outside p ∧
        ((Scan.run {} p).quoting = .outside → c = ']' → 0 < (Scan.run {} p).depth)) ∧
    ∀ r, firstArray? text = some r ↔
      ∃ before after, text.toList = before ++ r.toList ++ after ∧ '[' ∉ before ∧
        ClosesLast r.toList := by
  refine ⟨fun p c after hscanned hp => ?_, fun r => ?_⟩
  · have hfirst := List.head?_dropWhile_not (· ≠ '[') text.toList
    rw [hscanned] at hfirst
    cases p with
    | nil =>
      obtain rfl : c = '[' := by simpa using hfirst
      exact ⟨rfl, fun _ hclose => absurd hclose (by decide)⟩
    | cons d p =>
      obtain rfl : d = '[' := by simpa using hfirst
      obtain ⟨hopen, hdepth⟩ := depth_run_bracket hp
      exact ⟨hdepth, fun _ _ => hopen⟩
  · rw [firstArray?_eq_some_iff_chars, firstArrayChars?_eq_some_iff]
    simp only [isBracketed_iff_closesLast]

/-- Brackets in a quoted text count for nothing, also behind an escaped quote. -/
theorem firstArray?_levels_quoted :
    ∃ text p after r, text = "] says: [\"]\\\"[\", [1]] ]" ∧ p = "[\"]\\\"[\", [1".toList ∧
      r = "[\"]\\\"[\", [1]]" ∧ text.toList.dropWhile (· ≠ '[') = p ++ ']' :: after ∧
      Scan.takeBalanced {} p = none ∧ (Scan.run {} p).quoting = .outside ∧
      0 < (Scan.run {} p).depth ∧ level .outside p = (Scan.run {} p).depth ∧
      firstArray? text = some r ∧ ClosesLast r.toList := by
  obtain ⟨hdepth, hfound⟩ := firstArray?_levels "] says: [\"]\\\"[\", [1]] ]"
  have hscanned : "] says: [\"]\\\"[\", [1]] ]".toList.dropWhile (· ≠ '[') =
      "[\"]\\\"[\", [1".toList ++ ']' :: "] ]".toList := by
    decide +kernel
  have hgoes : Scan.takeBalanced {} "[\"]\\\"[\", [1".toList = none := by decide +kernel
  have houtside : (Scan.run {} "[\"]\\\"[\", [1".toList).quoting = .outside := by decide +kernel
  have htaken : firstArray? "] says: [\"]\\\"[\", [1]] ]" = some "[\"]\\\"[\", [1]]" := by
    decide +kernel
  obtain ⟨hlevel, hopen⟩ := hdepth _ ']' _ hscanned hgoes
  obtain ⟨-, -, -, -, hcloses⟩ := (hfound _).1 htaken
  exact ⟨_, _, _, _, rfl, rfl, rfl, hscanned, hgoes, houtside, hopen houtside rfl, hlevel.symm,
    htaken, hcloses⟩

end CloudGraph.Advisory

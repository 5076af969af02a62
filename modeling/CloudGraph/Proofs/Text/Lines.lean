import Mathlib.Data.List.Basic

/-!
# Reading a text line by line

A reader takes a line and finds something in it or nothing. What it finds in a text is put together
from the parts that the text is put together from, if these end where lines end.

**Whole lines** (`Reads`). A part of whole lines adds what is found in it, whatever comes after.

**Hanging text** (`Hanging`). After each line break comes a blank or a closing bracket. A reader
that finds nothing in lines that start so sees the first line of such a text only, and the text may
be written into a line without a change to what is found around it. Text may hang from a column
further right (`HangingFrom`), and then the reader may find something in lines that are less
indented.
-/

namespace CloudGraph.Text

variable {α β : Type} {read : List Char → Option α} {s t : List Char} {as bs : List α}

/-- What a reader finds in the lines of a text. -/
def readLines (read : List Char → Option α) (text : List Char) : List α :=
  (text.splitOn '\n').filterMap read

theorem readLines_append_newline (s t : List Char) :
    readLines read (s ++ '\n' :: t) = readLines read s ++ readLines read t := by
  have hsplit : (s ++ '\n' :: t).splitOn '\n' = s.splitOn '\n' ++ t.splitOn '\n' :=
    List.splitOnP_append_cons s t rfl
  unfold readLines
  rw [hsplit, List.filterMap_append]

theorem readLines_of_notMem (h : '\n' ∉ s) : readLines read s = (read s).toList := by
  unfold readLines
  rw [List.splitOn_eq_singleton h]
  cases hread : read s <;> simp [hread]

theorem splitOn_cons_of_ne {c : Char} (hc : c ≠ '\n') (s : List Char) :
    ∃ first rest, s.splitOn '\n' = first :: rest ∧
      (c :: s).splitOn '\n' = (c :: first) :: rest := by
  obtain ⟨first, rest, hs⟩ := List.exists_cons_of_ne_nil (List.splitOn_ne_nil '\n' s)
  refine ⟨first, rest, hs, ?_⟩
  rw [List.splitOn_cons_eq_if_modifyHead, if_neg (by simpa using hc), hs]
  rfl

theorem splitOn_newline_cons (s : List Char) : ('\n' :: s).splitOn '\n' = [] :: s.splitOn '\n' := by
  rw [List.splitOn_cons_eq_if_modifyHead, if_pos (beq_self_eq_true _)]

/-- The first line goes up to the first line break. -/
theorem splitOn_eq_cons (s : List Char) :
    s.splitOn '\n' = s.takeWhile (· ≠ '\n') :: (s.splitOn '\n').tail := by
  induction s with
  | nil => simp
  | cons c s ih =>
    by_cases hc : c = '\n'
    · subst hc
      rw [splitOn_newline_cons, List.takeWhile_cons_of_neg (by simp), List.tail_cons]
    · obtain ⟨first, rest, hs, hsplit⟩ := splitOn_cons_of_ne hc s
      rw [hs] at ih
      rw [hsplit, List.takeWhile_cons_of_pos (by simpa using hc), ← (List.cons.inj ih).1,
        List.tail_cons]

/-- Only the first line is read if nothing is found in the others. -/
theorem readLines_eq_of_tail (h : ∀ line ∈ (s.splitOn '\n').tail, read line = none) :
    readLines read s = (read (s.takeWhile (· ≠ '\n'))).toList := by
  have hothers : (s.splitOn '\n').tail.filterMap read = [] := List.filterMap_eq_nil_iff.2 h
  unfold readLines
  rw [splitOn_eq_cons]
  cases hfirst : read (s.takeWhile (· ≠ '\n')) with
  | none => rw [List.filterMap_cons_none hfirst, hothers, Option.toList_none]
  | some a => rw [List.filterMap_cons_some hfirst, hothers, Option.toList_some]

/-! ## Whole lines -/

/-- A reader finds the members of a list in a text of whole lines, and goes on after it. -/
def Reads (read : List Char → Option α) (text : List Char) (found : List α) : Prop :=
  ∀ rest, readLines read (text ++ rest) = found ++ readLines read rest

theorem reads_nil : Reads read [] [] := fun _ => rfl

theorem Reads.append (hs : Reads read s as) (ht : Reads read t bs) :
    Reads read (s ++ t) (as ++ bs) := by
  intro rest
  rw [List.append_assoc, hs, ht, List.append_assoc]

theorem reads_flatten {text : β → List Char} {found : β → List α} {items : List β}
    (h : ∀ b ∈ items, Reads read (text b) (found b)) :
    Reads read (items.map text).flatten (items.flatMap found) := by
  induction items with
  | nil => exact reads_nil
  | cons b items ih =>
    obtain ⟨hb, hitems⟩ := List.forall_mem_cons.1 h
    rw [List.flatMap_cons]
    exact hb.append (ih hitems)

theorem reads_flatten_nil {text : β → List Char} {items : List β}
    (h : ∀ b ∈ items, Reads read (text b) []) : Reads read (items.map text).flatten [] := by
  have hnone : (items.flatMap fun _ => ([] : List α)) = [] :=
    List.flatMap_eq_nil_iff.2 fun _ _ => rfl
  exact hnone ▸ reads_flatten h

theorem reads_flatten_map {text : β → List Char} {found : β → α} {items : List β}
    (h : ∀ b ∈ items, Reads read (text b) [found b]) :
    Reads read (items.map text).flatten (items.map found) := by
  have hfound : items.map found = items.flatMap fun b => [found b] := List.map_eq_flatMap
  exact hfound ▸ reads_flatten h

theorem reads_append_newline (s : List Char) : Reads read (s ++ ['\n']) (readLines read s) := by
  intro rest
  rw [List.append_assoc]
  exact readLines_append_newline s rest

/-- Whole lines, read on their own. -/
theorem reads_readLines (hread : read [] = none) (hlast : s.getLast? = some '\n') :
    Reads read s (readLines read s) := by
  obtain ⟨t, rfl⟩ := List.getLast?_eq_some_iff.1 hlast
  have hend : readLines read (t ++ ['\n']) = readLines read t := by
    rw [readLines_append_newline, readLines_of_notMem List.not_mem_nil, hread]
    exact List.append_nil _
  exact hend ▸ reads_append_newline t

/-- Whole lines in which nothing is found. -/
theorem reads_of_readLines_eq_nil (hlast : s.getLast? = some '\n') (h : readLines read s = []) :
    Reads read s [] := by
  obtain ⟨t, rfl⟩ := List.getLast?_eq_some_iff.1 hlast
  have ht : readLines read t = [] := by
    rw [readLines_append_newline t []] at h
    exact (List.append_eq_nil_iff.1 h).1
  exact ht ▸ reads_append_newline t

/-! ## Hanging text -/

/-- What a line starts with that goes on from the line before. -/
def continuation : List Char := [' ', ']', '}']

/-- Each line break is followed by a character of `continuation`. -/
def Hanging : List Char → Prop
  | [] => True
  | c :: rest => (c = '\n' → ∃ d ∈ rest.head?, d ∈ continuation) ∧ Hanging rest

/-! ### From a column -/

/-- Each line break is followed by a number of blanks and a character of `continuation`. -/
def HangingFrom (columns : Nat) : List Char → Prop
  | [] => True
  | c :: rest =>
    (c = '\n' → ∃ d ∈ continuation, List.replicate columns ' ' ++ [d] <+: rest) ∧
      HangingFrom columns rest

variable {columns : Nat}

theorem hangingFrom_of_notMem (h : '\n' ∉ s) : HangingFrom columns s := by
  induction s with
  | nil => trivial
  | cons c s ih =>
    obtain ⟨hc, hs⟩ := List.ne_and_not_mem_of_not_mem_cons h
    exact ⟨fun heq => absurd heq.symm hc, ih hs⟩

theorem HangingFrom.append (hs : HangingFrom columns s) (ht : HangingFrom columns t) :
    HangingFrom columns (s ++ t) := by
  induction s with
  | nil => exact ht
  | cons c s ih =>
    refine ⟨fun heq => ?_, ih hs.2⟩
    obtain ⟨d, hd, hprefix⟩ := hs.1 heq
    exact ⟨d, hd, hprefix.trans (List.prefix_append s t)⟩

theorem HangingFrom.after_of_notMem (hs : HangingFrom columns s) (t : List Char) (ht : '\n' ∉ t) :
    HangingFrom columns (t ++ s) :=
  (hangingFrom_of_notMem ht).append hs

/-- The line after a break may have more blanks than it needs. -/
theorem HangingFrom.newline_blanks {blanks : Nat} (hblanks : columns ≤ blanks) {c : Char}
    (hc : c ∈ continuation) (h : HangingFrom columns (List.replicate blanks ' ' ++ c :: s)) :
    HangingFrom columns ('\n' :: (List.replicate blanks ' ' ++ c :: s)) := by
  refine ⟨fun _ => ?_, h⟩
  obtain rfl | hlt := Nat.eq_or_lt_of_le hblanks
  · exact ⟨c, hc, s, by simp⟩
  · obtain ⟨more, rfl⟩ := Nat.exists_eq_add_of_lt hlt
    refine ⟨' ', by decide, List.replicate more ' ' ++ c :: s, ?_⟩
    have hsplit : List.replicate (columns + more + 1) ' ' =
        List.replicate columns ' ' ++ ' ' :: List.replicate more ' ' := by
      rw [Nat.add_assoc, List.replicate_add, List.replicate_succ]
    simp [hsplit]

theorem Hanging.hangingFrom (h : Hanging s) : HangingFrom 0 s := by
  induction s with
  | nil => trivial
  | cons c s ih =>
    refine ⟨fun heq => ?_, ih h.2⟩
    obtain ⟨d, hd, hcont⟩ := h.1 heq
    obtain ⟨s, rfl⟩ : ∃ s', s = d :: s' := List.head?_eq_some_iff.1 hd
    exact ⟨d, hcont, List.prefix_append [d] s⟩

theorem HangingFrom.hanging (h : HangingFrom columns s) : Hanging s := by
  induction s with
  | nil => trivial
  | cons c s ih =>
    refine ⟨fun heq => ?_, ih h.2⟩
    obtain ⟨d, hd, rest, rfl⟩ := h.1 heq
    cases columns with
    | zero => exact ⟨d, rfl, hd⟩
    | succ columns => exact ⟨' ', rfl, by decide⟩

/-- Every line but the first starts with the blanks. -/
theorem HangingFrom.of_mem_tail (h : HangingFrom columns s) :
    ∀ line ∈ (s.splitOn '\n').tail,
      ∃ d ∈ continuation, List.replicate columns ' ' ++ [d] <+: line := by
  induction s with
  | nil => simp
  | cons c s ih =>
    by_cases hc : c = '\n'
    · subst hc
      obtain ⟨d, hd, rest, rfl⟩ := h.1 rfl
      rw [splitOn_newline_cons, List.tail_cons, splitOn_eq_cons]
      refine List.forall_mem_cons.2 ⟨⟨d, hd, ?_⟩, ih h.2⟩
      have hblanks : ∀ e ∈ List.replicate columns ' ' ++ [d], decide (e ≠ '\n') = true := by
        have hne : d ≠ '\n' := by
          rintro rfl
          exact absurd hd (by decide)
        intro e he
        rcases List.mem_append.1 he with he | he
        · rw [List.eq_of_mem_replicate he]
          decide
        · exact decide_eq_true (List.mem_singleton.1 he ▸ hne)
      rw [List.takeWhile_append_of_pos hblanks]
      exact List.prefix_append _ _
    · obtain ⟨first, rest, hs, hsplit⟩ := splitOn_cons_of_ne hc s
      have hrest := ih h.2
      rw [hs] at hrest
      rw [hsplit]
      exact hrest

/-- Of text that hangs from a column, a reader that finds nothing in lines that start there or
further right reads the first line only. -/
theorem reads_hangingFrom (hread : ∀ d ∈ continuation, ∀ line,
      read (List.replicate columns ' ' ++ d :: line) = none) (h : HangingFrom columns s) :
    Reads read (s ++ ['\n']) (read (s.takeWhile (· ≠ '\n'))).toList := by
  have hlines : ∀ line ∈ (s.splitOn '\n').tail, read line = none := by
    intro line hline
    obtain ⟨d, hd, rest, rfl⟩ := h.of_mem_tail line hline
    rw [List.append_assoc]
    exact hread d hd rest
  exact readLines_eq_of_tail hlines ▸ reads_append_newline s

/-! ### From the margin -/

theorem hanging_of_notMem (h : '\n' ∉ s) : Hanging s :=
  (hangingFrom_of_notMem h : HangingFrom 0 s).hanging

theorem Hanging.cons_of_ne {c : Char} (hc : c ≠ '\n') (h : Hanging s) : Hanging (c :: s) :=
  ⟨fun heq => absurd heq hc, h⟩

theorem Hanging.append (hs : Hanging s) (ht : Hanging t) : Hanging (s ++ t) :=
  (hs.hangingFrom.append ht.hangingFrom).hanging

theorem Hanging.after_of_notMem (hs : Hanging s) (t : List Char) (ht : '\n' ∉ t) :
    Hanging (t ++ s) :=
  (hanging_of_notMem ht).append hs

/-- The line after a break may start with a character of `continuation`. -/
theorem Hanging.newline_cons {c : Char} (hc : c ∈ continuation) (h : Hanging (c :: s)) :
    Hanging ('\n' :: c :: s) :=
  ⟨fun _ => ⟨c, rfl, hc⟩, h⟩

/-- A reader that finds nothing in an empty line, nor in one that goes on from the line before. -/
structure SkipsContinued (read : List Char → Option α) : Prop where
  nil : read [] = none
  cons : ∀ c ∈ continuation, ∀ line, read (c :: line) = none

/-- Of hanging text only the first line is read. -/
theorem reads_hanging (hread : SkipsContinued read) (h : Hanging s) :
    Reads read (s ++ ['\n']) (read (s.takeWhile (· ≠ '\n'))).toList :=
  reads_hangingFrom (show ∀ d ∈ continuation, ∀ line,
    read (List.replicate 0 ' ' ++ d :: line) = none from hread.cons) h.hangingFrom

theorem reads_blank (hread : read [] = none) : Reads read ['\n'] [] := by
  have hreads : Reads read ['\n'] (readLines read []) := reads_append_newline []
  rw [readLines_of_notMem List.not_mem_nil, hread] at hreads
  exact hreads

theorem reads_line {a : α} (h : '\n' ∉ s) (ha : read s = some a) :
    Reads read (s ++ ['\n']) [a] := by
  have hline : readLines read s = [a] := by
    rw [readLines_of_notMem h, ha]
    rfl
  exact hline ▸ reads_append_newline s

theorem Reads.readLines_eq (h : Reads read s as) (hread : read [] = none) :
    readLines read s = as := by
  have hend : readLines read [] = [] := by
    rw [readLines_of_notMem List.not_mem_nil, hread]
    rfl
  rw [← List.append_nil s, h, hend, List.append_nil]

theorem Reads.readLines_ofList (h : Reads read s as) (hread : SkipsContinued read) :
    readLines read (String.ofList s).toList = as := by
  rw [String.toList_ofList]
  exact h.readLines_eq hread.nil

/-- Nothing is found in text that goes on from the line before. -/
theorem reads_continued (hread : SkipsContinued read) {c : Char} (hc : c ∈ continuation)
    (h : Hanging (c :: s)) : Reads read (c :: s ++ ['\n']) [] := by
  have hne : c ≠ '\n' := by
    rintro rfl
    exact absurd hc (by decide)
  have hreads := reads_hanging hread h
  rw [List.takeWhile_cons_of_pos (by simpa using hne), hread.cons c hc] at hreads
  exact hreads

/-! ## Lines with an opening -/

/-- The line itself, if it starts with an opening. -/
def lineFrom? (opening line : List Char) : Option (List Char) :=
  if opening.isPrefixOf line then some line else none

theorem lineFrom?_append (opening rest : List Char) :
    lineFrom? opening (opening ++ rest) = some (opening ++ rest) :=
  if_pos (List.isPrefixOf_iff_prefix.2 (List.prefix_append opening rest))

theorem skipsContinued_lineFrom? {opening : List Char} {d : Char} (hd : opening.head? = some d)
    (hnot : d ∉ continuation) : SkipsContinued (lineFrom? opening) := by
  obtain ⟨rest, rfl⟩ := List.head?_eq_some_iff.1 hd
  refine ⟨rfl, fun c hc line => if_neg fun hprefix => hnot ?_⟩
  obtain ⟨after, hafter⟩ := List.isPrefixOf_iff_prefix.1 hprefix
  rw [List.cons_append] at hafter
  exact (List.cons.inj hafter).1 ▸ hc

/-! ## Words of a line -/

/-- A word goes up to a character that is not in it. -/
theorem takeWhile_append_cons {c : Char} (h : c ∉ s) (t : List Char) :
    (s ++ c :: t).takeWhile (· ≠ c) = s := by
  have hall : ∀ d ∈ s, decide (d ≠ c) = true := fun d hd => decide_eq_true fun heq => h (heq ▸ hd)
  rw [List.takeWhile_append_of_pos hall, List.takeWhile_cons_of_neg (by simp), List.append_nil]

theorem dropWhile_append_cons {c : Char} (h : c ∉ s) (t : List Char) :
    (s ++ c :: t).dropWhile (· ≠ c) = c :: t := by
  have hall : ∀ d ∈ s, decide (d ≠ c) = true := fun d hd => decide_eq_true fun heq => h (heq ▸ hd)
  rw [List.dropWhile_append_of_pos hall, List.dropWhile_cons_of_neg (by simp)]

theorem notMem_intercalate {c : Char} {separator : List Char} {texts : List (List Char)}
    (hseparator : c ∉ separator) (htexts : ∀ t ∈ texts, c ∉ t) :
    c ∉ separator.intercalate texts := by
  induction texts with
  | nil => simp [List.intercalate]
  | cons t rest ih =>
    obtain ⟨ht, hrest⟩ := List.forall_mem_cons.1 htexts
    cases rest with
    | nil => simpa [List.intercalate] using ht
    | cons u rest =>
      have hsplit : separator.intercalate (t :: u :: rest) =
          t ++ (separator ++ separator.intercalate (u :: rest)) := by
        simp [List.intercalate]
      rw [hsplit, List.mem_append, List.mem_append]
      exact not_or.2 ⟨ht, not_or.2 ⟨hseparator, ih hrest⟩⟩

end CloudGraph.Text

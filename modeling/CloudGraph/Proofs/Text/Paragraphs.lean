import CloudGraph.Proofs.Text.Lines

/-!
# Reading a text paragraph by paragraph

A paragraph is a run of lines between empty ones. A reader takes the text of a paragraph and finds
something in it or nothing.

* **Paragraphs apart** (`readParagraphs_append`). Where each text of a list stands after an empty
  line, what is found in them is put together.
* **One paragraph** (`readParagraphs_hanging`). Hanging text has no empty line after its first, so
  it is read as a whole, and a value written into it cannot break it.
* **Lists of words** (`listed_intercalate`). Plain words come back from the list they are put in.
-/

namespace CloudGraph.Text

variable {α : Type} {read : List Char → Option α} {s t : List Char}

/-- The stretches of a text between its empty lines. -/
def paragraphs (text : List Char) : List (List Char) :=
  ((text.splitOn '\n').splitOn []).map (['\n'].intercalate ·)

/-- What a reader finds in the paragraphs of a text. -/
def readParagraphs (read : List Char → Option α) (text : List Char) : List α :=
  (paragraphs text).filterMap read

/-! ## Paragraphs apart -/

theorem readParagraphs_append_blank (s t : List Char) :
    readParagraphs read (s ++ '\n' :: '\n' :: t) =
      readParagraphs read s ++ readParagraphs read t := by
  have hlines : (s ++ '\n' :: '\n' :: t).splitOn '\n' =
      s.splitOn '\n' ++ [] :: t.splitOn '\n' := by
    rw [List.splitOn_append_cons_self, ← List.nil_append ('\n' :: t),
      List.splitOn_append_cons_self]
    rfl
  unfold readParagraphs paragraphs
  rw [hlines, List.splitOn_append_cons_self, List.map_append, List.filterMap_append]

theorem readParagraphs_append_newline (hread : read [] = none) (s : List Char) :
    readParagraphs read (s ++ ['\n']) = readParagraphs read s := by
  have hlines : (s ++ ['\n']).splitOn '\n' = s.splitOn '\n' ++ [[]] := by
    rw [List.splitOn_append_cons_self, List.splitOn_nil]
  have hnone : read (['\n'].intercalate []) = none := hread
  unfold readParagraphs paragraphs
  rw [hlines, List.splitOn_append_cons_self, List.splitOn_nil, List.map_append, List.map_singleton,
    List.filterMap_append, List.filterMap_cons_none hnone, List.filterMap_nil, List.append_nil]

/-- Paragraphs that each stand after an empty line. -/
theorem readParagraphs_append (hread : read [] = none) (hlast : s.getLast? = some '\n')
    (texts : List (List Char)) :
    readParagraphs read (s ++ (texts.map fun t => '\n' :: t ++ ['\n']).flatten) =
      readParagraphs read s ++ texts.flatMap (readParagraphs read) := by
  obtain ⟨s, rfl⟩ := List.getLast?_eq_some_iff.1 hlast
  clear hlast
  rw [readParagraphs_append_newline hread]
  -- the line break after a text is the first of the two before the next one
  induction texts generalizing s with
  | nil =>
    rw [List.map_nil, List.flatten_nil, List.append_nil, List.flatMap_nil, List.append_nil,
      readParagraphs_append_newline hread]
  | cons t texts ih =>
    have hblank : s ++ ['\n'] ++ ((t :: texts).map fun t => '\n' :: t ++ ['\n']).flatten =
        s ++ '\n' :: '\n' :: (t ++ ['\n'] ++ (texts.map fun t => '\n' :: t ++ ['\n']).flatten) := by
      simp
    rw [hblank, readParagraphs_append_blank, ih t, List.flatMap_cons]

/-! ## One paragraph -/

/-- No line of a text is empty. -/
def Unbroken (s : List Char) : Prop :=
  [] ∉ s.splitOn '\n'

theorem readParagraphs_of_unbroken (h : Unbroken s) :
    readParagraphs read s = (read s).toList := by
  unfold readParagraphs paragraphs
  rw [List.splitOn_eq_singleton h, List.map_singleton, List.intercalate_splitOn]
  cases hs : read s <;> simp [hs]

/-- After a line break comes a character that starts a line, so no later line is empty. -/
theorem nil_notMem_tail_of_hanging (h : Hanging s) : [] ∉ (s.splitOn '\n').tail := by
  intro hmem
  obtain ⟨d, -, hprefix⟩ := h.hangingFrom.of_mem_tail [] hmem
  exact absurd hprefix (by simp)

/-- Hanging text is one paragraph. -/
theorem unbroken_of_hanging {c : Char} (hfirst : s.head? = some c) (hc : c ≠ '\n')
    (h : Hanging s) : Unbroken s := by
  obtain ⟨s, rfl⟩ := List.head?_eq_some_iff.1 hfirst
  obtain ⟨first, rest, -, hsplit⟩ := splitOn_cons_of_ne hc s
  have hrest := nil_notMem_tail_of_hanging h
  unfold Unbroken
  rw [hsplit] at hrest ⊢
  simpa using hrest

theorem readParagraphs_hanging {c : Char} (hfirst : s.head? = some c) (hc : c ≠ '\n')
    (h : Hanging s) : readParagraphs read s = (read s).toList :=
  readParagraphs_of_unbroken (unbroken_of_hanging hfirst hc h)

/-! ## Lines -/

/-- A line and those after it. -/
def lines (first : List Char) (rest : List (List Char)) : List Char :=
  first ++ (rest.map ('\n' :: ·)).flatten

/-- The line break that each line ends with is the one that the next line starts with. -/
theorem newline_cons_flatten (rest : List (List Char)) (t : List Char) :
    '\n' :: ((rest.map (· ++ ['\n'])).flatten ++ t) =
      (rest.map ('\n' :: ·)).flatten ++ '\n' :: t := by
  induction rest with
  | nil => rfl
  | cons line rest ih =>
    simp only [List.map_cons, List.flatten_cons, List.append_assoc, List.cons_append,
      List.nil_append, ih]

theorem takeWhile_lines {first : List Char} (h : '\n' ∉ first) (rest : List (List Char)) :
    (lines first rest).takeWhile (· ≠ '\n') = first := by
  have hall : ∀ c ∈ first, decide (c ≠ '\n') = true := fun c hc =>
    decide_eq_true fun heq => h (heq ▸ hc)
  unfold lines
  rw [List.takeWhile_append_of_pos hall]
  cases rest <;> simp

theorem hanging_lines {first : List Char} {rest : List (List Char)} (hfirst : Hanging first)
    (hrest : ∀ line ∈ rest, Hanging ('\n' :: line)) : Hanging (lines first rest) := by
  refine hfirst.append ?_
  induction rest with
  | nil => trivial
  | cons line rest ih =>
    obtain ⟨hline, hrest⟩ := List.forall_mem_cons.1 hrest
    exact hline.append (ih hrest)

/-! ## Lists of words -/

/-- A plain word has nothing that ends a word of a list, or the list. -/
def IsPlain (word : List Char) : Prop :=
  ∀ c ∈ [',', ' ', '[', ']'], c ∉ word

theorem isPlain_of_forall {word : List Char} {p : Char → Bool}
    (hp : [',', ' ', '[', ']'].any p = false) (h : ∀ c ∈ word, p c = true) : IsPlain word :=
  fun c hc hmem => List.any_eq_false.1 hp c hc (h c hmem)

/-- The words of a list with commas between them. -/
def listed (s : List Char) : List String :=
  (s.splitOn ',').map fun word => String.ofList (word.dropWhile (· == ' '))

theorem intercalate_comma_blank (t : List Char) (rest : List (List Char)) :
    [',', ' '].intercalate (t :: rest) = [','].intercalate (t :: rest.map (' ' :: ·)) := by
  induction rest generalizing t with
  | nil => simp
  | cons u rest ih =>
    rw [List.intercalate_cons_cons, ih, List.map_cons, List.intercalate_cons_cons,
      List.append_assoc, List.append_assoc]
    cases rest <;> simp

theorem dropWhile_blank_of_notMem (h : ' ' ∉ s) : s.dropWhile (· == ' ') = s := by
  cases s with
  | nil => rfl
  | cons c s =>
    have hc : c ≠ ' ' := (List.ne_of_not_mem_cons h).symm
    exact List.dropWhile_cons_of_neg (by simpa using hc)

theorem listed_intercalate {words : List String} (hne : words ≠ [])
    (h : ∀ word ∈ words, IsPlain word.toList) :
    listed (", ".toList.intercalate (words.map String.toList)) = words := by
  obtain ⟨first, rest, rfl⟩ := List.exists_cons_of_ne_nil hne
  obtain ⟨hfirst, hrest⟩ := List.forall_mem_cons.1 h
  have hseparator : ", ".toList = [',', ' '] := by simp
  have hcommas : ∀ word ∈ first.toList :: (rest.map String.toList).map (' ' :: ·),
      ',' ∉ word := by
    simp only [List.map_map, List.forall_mem_cons, List.forall_mem_map]
    exact ⟨hfirst _ (by decide), fun word hword => by simp [hrest word hword ',']⟩
  have hwords : ∀ word ∈ rest,
      String.ofList ((' ' :: word.toList).dropWhile (· == ' ')) = word := fun word hword => by
    rw [List.dropWhile_cons_of_pos (by simp),
      dropWhile_blank_of_notMem (hrest word hword _ (by decide)), String.ofList_toList]
  unfold listed
  rw [hseparator, List.map_cons, intercalate_comma_blank,
    List.splitOn_intercalate ',' hcommas (by simp), List.map_cons,
    dropWhile_blank_of_notMem (hfirst _ (by decide)), String.ofList_toList, List.map_map,
    List.map_map]
  exact congrArg (first :: ·) ((List.map_congr_left hwords).trans (List.map_id' rest))

theorem notMem_intercalate_of_isPlain {words : List String}
    (h : ∀ word ∈ words, IsPlain word.toList) {c : Char} (hc : c ∈ [',', ' ', '[', ']'])
    (hseparator : c ∉ ", ".toList) : c ∉ ", ".toList.intercalate (words.map String.toList) :=
  notMem_intercalate hseparator (List.forall_mem_map.2 fun word hword => h word hword c hc)

end CloudGraph.Text

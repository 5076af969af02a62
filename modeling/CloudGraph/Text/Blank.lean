/-!
# Blank characters

`isBlank` is the white space of Unicode (25 code points). `trim` drops it from both ends of a
text, and a text is blank when nothing else is in it.
-/

namespace CloudGraph.Text

/-- The code points with the property White_Space. -/
def isBlank (c : Char) : Bool :=
  let n := c.toNat
  (9 ≤ n && n ≤ 13) || n == 0x20 || n == 0x85 || n == 0xA0 || n == 0x1680
    || (0x2000 ≤ n && n ≤ 0x200A) || n == 0x2028 || n == 0x2029 || n == 0x202F || n == 0x205F
    || n == 0x3000

/-- Drop what satisfies `p` from the end of a list. -/
def dropEndWhile {α : Type} (p : α → Bool) (xs : List α) : List α :=
  (xs.reverse.dropWhile p).reverse

theorem dropEndWhile_of_forall {α : Type} {p : α → Bool} {xs : List α}
    (h : ∀ x ∈ xs, p x = false) : dropEndWhile p xs = xs := by
  unfold dropEndWhile
  cases hreverse : xs.reverse with
  | nil => simpa using hreverse.symm
  | cons x rest =>
    have hx : p x = false := h x (List.mem_reverse.1 (by simp [hreverse]))
    rw [List.dropWhile_cons_of_neg (by simp [hx]), ← hreverse, List.reverse_reverse]

def trimChars (cs : List Char) : List Char :=
  dropEndWhile isBlank (cs.dropWhile isBlank)

/-- A text without blanks has nothing to trim. -/
theorem trimChars_of_forall {cs : List Char} (h : ∀ c ∈ cs, isBlank c = false) :
    trimChars cs = cs := by
  have hstart : cs.dropWhile isBlank = cs := by
    cases cs with
    | nil => rfl
    | cons c cs => exact List.dropWhile_cons_of_neg (by simp [h c])
  rw [trimChars, hstart, dropEndWhile_of_forall h]

/-- Drop blank characters from both ends. -/
def trim (s : String) : String :=
  String.ofList (trimChars s.toList)

/-- Whether a text has no character that is not blank. -/
def isBlankText (s : String) : Bool :=
  s.toList.all isBlank

end CloudGraph.Text

import CloudGraph.Text.Blank
import CloudGraph.Text.Hexadecimal

/-!
# Escapes in patterns

How a stretch of a pattern is read follows from two flags, `Mode`. A backslash starts a character
that would mean something else on its own, a class of characters, or an assertion on a place.
Every reader returns what is left, and `escape?_length_lt` says that this is less than before.
-/

namespace CloudGraph.FieldPattern

/-- The flags that decide how a stretch of a pattern is read. -/
structure Mode where
  /-- Blanks and comments between the parts say nothing. -/
  spaced : Bool
  /-- Classes and words have the characters of every script; otherwise those of ASCII. -/
  unicode : Bool
deriving DecidableEq, Repr

/-- Drop blanks and comments; a comment is the rest of a line behind `#`. -/
def dropSpace (inComment : Bool) : List Char → List Char
  | [] => []
  | c :: cs =>
    if inComment then dropSpace (c ≠ '\n') cs
    else if Text.isBlank c then dropSpace false cs
    else if c = '#' then dropSpace true cs
    else c :: cs

theorem dropSpace_length_le (inComment : Bool) (cs : List Char) :
    (dropSpace inComment cs).length ≤ cs.length := by
  fun_induction dropSpace inComment cs <;> simp_all <;> omega

namespace Mode

/-- What comes next when the space that says nothing is dropped. -/
def skip (m : Mode) (cs : List Char) : List Char :=
  if m.spaced then dropSpace false cs else cs

theorem skip_length_le (m : Mode) (cs : List Char) : (m.skip cs).length ≤ cs.length := by
  unfold skip
  split
  · exact dropSpace_length_le false cs
  · exact Nat.le_refl _

/-- The next character of a class; of a comment in it only the sign `#` is dropped. -/
def peek? (m : Mode) (cs : List Char) : Option Char :=
  if m.spaced then
    match cs.dropWhile Text.isBlank with
    | '#' :: rest => (rest.dropWhile Text.isBlank).head?
    | rest => rest.head?
  else cs.head?

end Mode

/-- What a backslash starts. -/
inductive Escape where
  /-- One character, and whether it is written as a byte. -/
  | character (c : Char) (isByte : Bool)
  /-- A class of characters, and whether all of them are ASCII when the mode asks for that. -/
  | charClass (isAscii : Bool)
  /-- An assertion on the text around a place. -/
  | assertion
  /-- An assertion that a word starts or ends. -/
  | wordBoundary
deriving DecidableEq, Repr

/-- Read as many hexadecimal digits as `count`. -/
def digits? (m : Mode) : Nat → List Char → Option (List Char × List Char)
  | 0, cs => some ([], cs)
  | count + 1, cs =>
    match m.skip cs with
    | c :: rest =>
      if (Text.hexValue? c).isSome then
        (digits? m count rest).map fun (digits, rest) => (c :: digits, rest)
      else none
    | [] => none

theorem digits?_length_le {m : Mode} {count : Nat} {cs digits rest : List Char}
    (h : digits? m count cs = some (digits, rest)) : rest.length ≤ cs.length := by
  induction count generalizing cs digits with
  | zero => simp_all [digits?]
  | succ count ih =>
    have hskip := m.skip_length_le cs
    simp only [digits?] at h
    split at h
    · rename_i c more heq
      split at h
      · obtain ⟨⟨ds, r⟩, hr, hpair⟩ := Option.map_eq_some_iff.1 h
        simp only [Prod.mk.injEq] at hpair
        obtain ⟨-, rfl⟩ := hpair
        have hle := ih hr
        simp only [heq, List.length_cons] at hskip
        omega
      · simp at h
    · simp at h

/-- The character that is written as a number of `count` digits. -/
def numbered? (m : Mode) (count : Nat) (isByte : Bool) (cs : List Char) :
    Option (Escape × List Char) := do
  let (digits, rest) ← digits? m count cs
  return (.character (← Text.charOfDigits? digits) isByte, rest)

/-- Letters that name a control character, with its code point. -/
def controlLetters : List (Char × Char) := [
  ('a', '\x07'), ('f', '\x0C'), ('t', '\t'), ('n', '\n'), ('r', '\r'), ('v', '\x0B')]

/-- What one character behind a backslash says. -/
def ofLetter? (c : Char) : Option Escape :=
  if ['d', 's', 'w'].contains c then some (.charClass true)
  else if ['D', 'S', 'W'].contains c then some (.charClass false)
  else if ['A', 'z'].contains c then some .assertion
  else if ['b', 'B', '<', '>'].contains c then some .wordBoundary
  else match controlLetters.lookup c with
    | some control => some (.character control false)
    | none =>
      if c.toNat < 0x80 && !c.isAlphanum then some (.character c false) else none

/-- The letters of the general categories of characters. -/
def categoryLetters : List Char := ['C', 'L', 'M', 'N', 'P', 'S', 'Z']

/-- Read what stands behind a backslash. -/
def escape? (m : Mode) : List Char → Option (Escape × List Char)
  | [] => none
  | 'x' :: cs => numbered? m 2 true cs
  | 'u' :: cs => numbered? m 4 false cs
  | 'U' :: cs => numbered? m 8 false cs
  | c :: cs =>
    if c = 'p' ∨ c = 'P' then
      match m.skip cs with
      | category :: rest =>
        if categoryLetters.contains category.toUpper then some (.charClass false, rest) else none
      | [] => none
    else (ofLetter? c).map (·, cs)

theorem numbered?_length_le {m : Mode} {count : Nat} {isByte : Bool} {cs rest : List Char}
    {e : Escape} (h : numbered? m count isByte cs = some (e, rest)) :
    rest.length ≤ cs.length := by
  simp only [numbered?, Option.bind_eq_bind, Option.pure_def, Option.bind_eq_some_iff,
    Option.some.injEq, Prod.mk.injEq] at h
  obtain ⟨⟨digits, r⟩, hd, c, -, -, rfl⟩ := h
  exact digits?_length_le hd

theorem escape?_length_lt {m : Mode} {cs rest : List Char} {e : Escape}
    (h : escape? m cs = some (e, rest)) : rest.length < cs.length := by
  unfold escape? at h
  split at h
  · simp at h
  · have := numbered?_length_le h; simp; omega
  · have := numbered?_length_le h; simp; omega
  · have := numbered?_length_le h; simp; omega
  · rename_i c cs _ _ _
    split at h
    · have hskip := m.skip_length_le cs
      split at h
      · rename_i heq
        split at h
        · simp only [Option.some.injEq, Prod.mk.injEq] at h
          simp only [heq, List.length_cons] at hskip
          rw [← h.2, List.length_cons]
          omega
        · simp at h
      · simp at h
    · obtain ⟨e', -, hpair⟩ := Option.map_eq_some_iff.1 h
      simp only [Prod.mk.injEq] at hpair
      rw [← hpair.2]
      simp

end CloudGraph.FieldPattern

import CloudGraph.Logging.FieldPattern.Escape
import CloudGraph.Logging.FieldPattern.Row

/-!
# Classes of characters in patterns

A class in brackets lists characters, ranges of them and other classes, and operators combine such
lists. `charClass?` reads one and tells how deep it nests.
-/

namespace CloudGraph.FieldPattern

/-- The classes with a name between colons. -/
def classNames : List String := [
  "alnum", "alpha", "ascii", "blank", "cntrl", "digit", "graph", "lower", "print", "punct",
  "space", "upper", "word", "xdigit"]

/-- Read the name of a class and the marks that end it. -/
def className? (cs : List Char) : Option (List Char) :=
  match cs.dropWhile (· ≠ ':') with
  | ':' :: ']' :: rest =>
    if classNames.contains (String.ofList (cs.takeWhile (· ≠ ':'))) then some rest else none
  | _ => none

/-- Read a named class behind its bracket: whether it is negated, and what follows it. -/
def namedClass? : List Char → Option (Bool × List Char)
  | ':' :: '^' :: cs => (className? cs).map (true, ·)
  | ':' :: cs => (className? cs).map (false, ·)
  | _ => none

/-- One end of a range, or an item of its own. -/
def classAtom? (m : Mode) : List Char → Option (Escape × List Char)
  | [] => none
  | '\\' :: cs => escape? m cs
  | c :: cs => some (.character c false, cs)

/-- Whether a class can hold what was read. -/
def isClassItem (m : Mode) : Escape → Bool
  | .character c _ => m.unicode || c.toNat < 0x80
  | .charClass isAscii => m.unicode || isAscii
  | .assertion | .wordBoundary => false

/-- Whether two ends make a range. -/
def isRange (m : Mode) : Escape → Escape → Bool
  | .character a _, .character b _ => (m.unicode || b.toNat < 0x80) && a.toNat ≤ b.toNat
  | _, _ => false

/-- Read an item of a class: a character, a range or an escape. A hyphen in front of another one
or at the end of the class makes no range. -/
def classItem? (m : Mode) (cs : List Char) : Option (List Char) := do
  let (first, rest) ← classAtom? m cs
  match m.skip rest with
  | '-' :: behind =>
    if m.peek? behind = some ']' ∨ m.peek? behind = some '-' then
      if isClassItem m first then some ('-' :: behind) else none
    else
      let (last, rest) ← classAtom? m (m.skip behind)
      if isRange m first last then some rest else none
  | rest => if isClassItem m first then some rest else none

/-- A class that is not closed yet: the items behind its last operator, and the levels of what is
in front of it. -/
structure OpenClass where
  items : Row
  left? : Option Nat
deriving DecidableEq, Repr

namespace OpenClass

def add (c : OpenClass) (depth : Nat) : OpenClass :=
  { c with items := c.items.add depth }

/-- The levels of what has been read. -/
def levels (c : OpenClass) : Nat :=
  match c.left? with
  | some left => max left c.items.levels + 1
  | none => c.items.levels

/-- Put an operator behind what has been read. -/
def operate (c : OpenClass) : OpenClass :=
  ⟨.empty, some c.levels⟩

/-- Read the hyphens in front of the other items, which stand for themselves. -/
def hyphens (m : Mode) (c : OpenClass) (cs : List Char) : OpenClass × List Char :=
  match cs with
  | '-' :: rest => hyphens m (c.add 0) (m.skip rest)
  | _ => (c, cs)
termination_by cs.length
decreasing_by
  have := m.skip_length_le rest
  simp only [List.length_cons]
  omega

theorem hyphens_length_le (m : Mode) (c : OpenClass) (cs : List Char) :
    (hyphens m c cs).2.length ≤ cs.length := by
  fun_induction hyphens m c cs with
  | case1 c rest ih =>
    have := m.skip_length_le rest
    simp only [List.length_cons]
    omega
  | case2 => exact Nat.le_refl _

/-- Read the circumflex that negates a class. -/
def negation (m : Mode) (cs : List Char) : Bool × List Char :=
  match cs with
  | '^' :: rest => (true, m.skip rest)
  | _ => (false, cs)

theorem negation_length_le (m : Mode) (cs : List Char) :
    (negation m cs).2.length ≤ cs.length := by
  unfold negation
  split
  · rename_i rest
    have := m.skip_length_le rest
    simp only [List.length_cons]
    omega
  · exact Nat.le_refl _

/-- A bracket that would close an empty class stands for itself. -/
def firstBracket (read : OpenClass × List Char) : OpenClass × List Char :=
  match read with
  | (c, ']' :: rest) => if c.items.size = 0 then (c.add 0, rest) else read
  | _ => read

theorem firstBracket_length_le (read : OpenClass × List Char) :
    (firstBracket read).2.length ≤ read.2.length := by
  unfold firstBracket
  split
  · split <;> simp
  · exact Nat.le_refl _

/-- Read what can only stand at the start of a class. -/
def start? (m : Mode) (cs : List Char) : Option (OpenClass × List Char) :=
  let (isNegated, rest) := negation m (m.skip cs)
  if isNegated && !m.unicode then none
  else some (firstBracket (hyphens m ⟨.empty, none⟩ rest))

theorem start?_length_le {m : Mode} {cs rest : List Char} {c : OpenClass}
    (h : start? m cs = some (c, rest)) : rest.length ≤ cs.length := by
  simp only [start?, Option.ite_none_left_eq_some, Option.some.injEq] at h
  have h₁ := m.skip_length_le cs
  have h₂ := negation_length_le m (m.skip cs)
  have h₃ := hyphens_length_le m ⟨.empty, none⟩ (negation m (m.skip cs)).2
  have h₄ := firstBracket_length_le (hyphens m ⟨.empty, none⟩ (negation m (m.skip cs)).2)
  simp only [h.2] at h₄
  omega

end OpenClass

theorem className?_length_lt {cs rest : List Char} (h : className? cs = some rest) :
    rest.length < cs.length := by
  unfold className? at h
  split at h
  · rename_i heq
    have hle := (List.dropWhile_suffix (· ≠ ':') (l := cs)).length_le
    simp only [Option.ite_none_right_eq_some, Option.some.injEq] at h
    simp only [heq, h.2, List.length_cons] at hle
    omega
  · simp at h

theorem namedClass?_length_lt {cs rest : List Char} {isNegated : Bool}
    (h : namedClass? cs = some (isNegated, rest)) : rest.length < cs.length := by
  unfold namedClass? at h
  split at h <;> simp only [Option.map_eq_some_iff, Prod.mk.injEq, reduceCtorEq] at h
  all_goals
    obtain ⟨r, hr, -, rfl⟩ := h
    have := className?_length_lt hr
    simp only [List.length_cons]
    omega

theorem classAtom?_length_lt {m : Mode} {cs rest : List Char} {e : Escape}
    (h : classAtom? m cs = some (e, rest)) : rest.length < cs.length := by
  unfold classAtom? at h
  split at h
  · simp at h
  · have := escape?_length_lt h
    simp only [List.length_cons]
    omega
  · simp only [Option.some.injEq, Prod.mk.injEq] at h
    simp [h.2]

theorem classItem?_length_lt {m : Mode} {cs rest : List Char}
    (h : classItem? m cs = some rest) : rest.length < cs.length := by
  simp only [classItem?, Option.bind_eq_bind, Option.bind_eq_some_iff] at h
  obtain ⟨⟨first, more⟩, hfirst, h⟩ := h
  have h₁ := classAtom?_length_lt hfirst
  have h₂ := m.skip_length_le more
  split at h
  · rename_i behind heq
    simp only [heq, List.length_cons] at h₂
    split at h
    · simp only [Option.ite_none_right_eq_some, Option.some.injEq] at h
      rw [← h.2, List.length_cons]
      omega
    · simp only [Option.bind_eq_some_iff, Option.ite_none_right_eq_some, Option.some.injEq] at h
      obtain ⟨⟨last, r⟩, hlast, -, rfl⟩ := h
      have h₃ := classAtom?_length_lt hlast
      have h₄ := m.skip_length_le behind
      change r.length < cs.length
      omega
  · simp only [Option.ite_none_right_eq_some, Option.some.injEq] at h
    rw [← h.2]
    omega

/-- Read the rest of the innermost open class and of those around it: the levels of the whole class
and what follows it. -/
def closeClass? (m : Mode) (around : List OpenClass) (c : OpenClass) (cs : List Char) :
    Option (Nat × List Char) :=
  match _ : m.skip cs with
  | [] => none
  | ']' :: rest =>
    match around with
    | [] => some (c.levels + 1, rest)
    | outer :: around => closeClass? m around (outer.add (c.levels + 1)) rest
  | '&' :: '&' :: rest | '-' :: '-' :: rest | '~' :: '~' :: rest =>
    closeClass? m around c.operate rest
  | '[' :: rest =>
    match _ : namedClass? rest with
    | some (isNegated, rest) =>
      if isNegated && !m.unicode then none else closeClass? m around (c.add 0) rest
    | none =>
      match _ : OpenClass.start? m rest with
      | some (inner, rest) => closeClass? m (c :: around) inner rest
      | none => none
  | item =>
    match _ : classItem? m item with
    | some rest => closeClass? m around (c.add 0) rest
    | none => none
termination_by cs.length
decreasing_by
  all_goals
    have hle := m.skip_length_le cs
    simp only [‹m.skip cs = _›, List.length_cons] at hle
  · omega
  · omega
  · omega
  · omega
  · have := namedClass?_length_lt ‹_›
    omega
  · have := OpenClass.start?_length_le ‹_›
    omega
  · have := classItem?_length_lt ‹_›
    omega

theorem closeClass?_length_lt {m : Mode} {around : List OpenClass} {c : OpenClass}
    {cs rest : List Char} {levels : Nat} (h : closeClass? m around c cs = some (levels, rest)) :
    rest.length < cs.length := by
  fun_induction closeClass? m around c cs with
  | case1 | case7 | case10 | case12 => simp at h
  | case2 c cs more hskip =>
    have hle := m.skip_length_le cs
    simp only [Option.some.injEq, Prod.mk.injEq] at h
    simp only [hskip, List.length_cons, h.2] at hle
    omega
  | case3 c cs more hskip _ _ ih =>
    have hle := m.skip_length_le cs
    simp only [hskip, List.length_cons] at hle
    have := ih h
    omega
  | case4 _ _ cs _ hskip ih | case5 _ _ cs _ hskip ih | case6 _ _ cs _ hskip ih =>
    have hle := m.skip_length_le cs
    simp only [hskip, List.length_cons] at hle
    have := ih h
    omega
  | case8 _ _ cs _ hskip _ _ hname _ ih =>
    have hle := m.skip_length_le cs
    simp only [hskip, List.length_cons] at hle
    have := namedClass?_length_lt hname
    have := ih h
    omega
  | case9 _ _ cs _ hskip _ _ _ hstart ih =>
    have hle := m.skip_length_le cs
    simp only [hskip, List.length_cons] at hle
    have := OpenClass.start?_length_le hstart
    have := ih h
    omega
  | case11 _ _ cs _ _ _ _ _ _ hitem _ ih =>
    have hle := m.skip_length_le cs
    have := classItem?_length_lt ‹_›
    have := ih h
    omega

/-- Read a class behind its bracket: its levels, and what follows it. -/
def charClass? (m : Mode) (cs : List Char) : Option (Nat × List Char) := do
  let (c, rest) ← OpenClass.start? m cs
  closeClass? m [] c rest

theorem charClass?_length_le {m : Mode} {cs rest : List Char} {levels : Nat}
    (h : charClass? m cs = some (levels, rest)) : rest.length ≤ cs.length := by
  simp only [charClass?, Option.bind_eq_bind, Option.bind_eq_some_iff] at h
  obtain ⟨⟨c, more⟩, hstart, hclose⟩ := h
  have h₁ := OpenClass.start?_length_le hstart
  have h₂ := closeClass?_length_lt hclose
  change rest.length < more.length at h₂
  omega

end CloudGraph.FieldPattern

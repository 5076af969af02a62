import CloudGraph.Logging.FieldPattern.CharClass
import CloudGraph.Text.Letter

/-!
# Patterns for field values

A pattern is a regular expression without lookaround, backreferences and counted repetition.
`FieldPattern.check` reads one part after the other. The groups that are not closed yet are kept
in a list, so that flags set inside a group end with it.
-/

namespace CloudGraph

/-- Why a text cannot be used as a pattern. -/
inductive PatternError where
  | malformed
  /-- It asks where words end in the scripts outside ASCII. -/
  | unicodeWordBoundary
deriving DecidableEq, Repr

def PatternError.message : PatternError → String
  | .malformed => "error building NFA"
  | .unicodeWordBoundary =>
    "unsupported regex feature for DFAs: cannot build DFAs for regexes with Unicode word "
      ++ "boundaries; switch to ASCII word boundaries, or heuristically enable Unicode word "
      ++ "boundaries or use a different regex engine"

namespace FieldPattern

/-- The most levels that the parts of a pattern nest. -/
def nestingLimit : Nat := 250

/-! ## Flags and names of groups -/

def flagLetters : List Char := ['i', 'm', 's', 'U', 'u', 'R', 'x', '-']

/-- Whether letters are flags: each at most once, and some behind the hyphen that clears them. -/
def isFlags (letters : List Char) : Bool :=
  letters.all flagLetters.contains && decide letters.Nodup && letters.getLast? != some '-'

/-- Whether flags set or clear a letter. -/
def flagState? (letters : List Char) (letter : Char) : Option Bool :=
  if (letters.takeWhile (· ≠ '-')).contains letter then some true
  else if letters.contains letter then some false
  else none

/-- The mode with flags set and cleared. -/
def Mode.change (m : Mode) (letters : List Char) : Mode where
  spaced := (flagState? letters 'x').getD m.spaced
  unicode := (flagState? letters 'u').getD m.unicode

/-- Whether the name of a group can have a character behind its first one. -/
def isNameChar (c : Char) : Bool :=
  c == '_' || c == '.' || c == '[' || c == ']' || Text.isLetterOrNumber c

/-- Whether a group can have a name. -/
def isGroupName : List Char → Bool
  | [] => false
  | c :: cs => (c == '_' || Text.isLetter c) && cs.all isNameChar

/-- What an opening parenthesis starts. -/
inductive Opening where
  /-- Flags for the rest of the group around it. -/
  | flags (mode : Mode)
  /-- A group with a mode of its own. -/
  | group (mode : Mode)
  /-- A group with a name. -/
  | named (name : List Char)
deriving DecidableEq, Repr

/-- Read the name of a group. -/
def openName? (cs : List Char) : Option (Opening × List Char) :=
  match cs.dropWhile (· ≠ '>') with
  | _ :: rest =>
    let name := cs.takeWhile (· ≠ '>')
    if isGroupName name then some (.named name, rest) else none
  | [] => none

/-- Read flags and the mark behind them. -/
def openFlags? (m : Mode) (cs : List Char) : Option (Opening × List Char) :=
  let letters := cs.takeWhile fun c => c ≠ ':' && c ≠ ')'
  match cs.dropWhile fun c => c ≠ ':' && c ≠ ')' with
  | mark :: rest =>
    if !isFlags letters then none
    else if mark = ':' then some (.group (m.change letters), rest)
    else if letters.isEmpty then none
    else some (.flags (m.change letters), rest)
  | [] => none

/-- Read what an opening parenthesis starts. -/
def opening? (m : Mode) (cs : List Char) : Option (Opening × List Char) :=
  match m.skip cs with
  | '?' :: 'P' :: '<' :: rest | '?' :: '<' :: rest => openName? rest
  | '?' :: rest => openFlags? m rest
  | rest => some (.group m, rest)

theorem openName?_length_le {cs rest : List Char} {o : Opening}
    (h : openName? cs = some (o, rest)) : rest.length ≤ cs.length := by
  unfold openName? at h
  split at h
  · rename_i heq
    have hle := (List.dropWhile_suffix (· ≠ '>') (l := cs)).length_le
    simp only [Option.ite_none_right_eq_some, Option.some.injEq, Prod.mk.injEq] at h
    simp only [heq, h.2.2, List.length_cons] at hle
    omega
  · simp at h

theorem openFlags?_length_le {m : Mode} {cs rest : List Char} {o : Opening}
    (h : openFlags? m cs = some (o, rest)) : rest.length ≤ cs.length := by
  unfold openFlags? at h
  split at h
  · rename_i mark more heq
    have hle := (List.dropWhile_suffix (fun c => c ≠ ':' && c ≠ ')') (l := cs)).length_le
    have hmore : more = rest := by grind
    simp only [heq, hmore, List.length_cons] at hle
    omega
  · simp at h

theorem opening?_length_le {m : Mode} {cs rest : List Char} {o : Opening}
    (h : opening? m cs = some (o, rest)) : rest.length ≤ cs.length := by
  have hskip := m.skip_length_le cs
  unfold opening? at h
  split at h
  · have := openName?_length_le h
    simp_all
    omega
  · have := openName?_length_le h
    simp_all
    omega
  · have := openFlags?_length_le h
    simp_all
    omega
  · simp only [Option.some.injEq, Prod.mk.injEq] at h
    rw [← h.2]
    exact hskip

/-! ## Groups -/

/-- A group that is not closed yet. -/
structure OpenGroup where
  mode : Mode
  /-- What stands in front of the last bar. -/
  branches : Row
  /-- What stands behind it. -/
  parts : Row
  /-- The levels of the last part, if that can be repeated. -/
  last? : Option Nat
deriving DecidableEq, Repr

namespace OpenGroup

def start (m : Mode) : OpenGroup :=
  ⟨m, .empty, .empty, none⟩

/-- Put a part that nests so deep at the end. -/
def push (g : OpenGroup) (levels : Nat) : OpenGroup :=
  { g with parts := g.parts.add levels, last? := some levels }

/-- Read the parts that follow in another mode. -/
def pushFlags (g : OpenGroup) (m : Mode) : OpenGroup :=
  { g with mode := m, parts := g.parts.add 0, last? := none }

/-- Repeat the last part. -/
def repeat? (g : OpenGroup) : Option OpenGroup :=
  g.last?.map fun last => { g with parts := g.parts.wrapLast last, last? := some (last + 1) }

/-- Start another branch. -/
def branch (g : OpenGroup) : OpenGroup :=
  { g with branches := g.branches.add g.parts.levels, parts := .empty, last? := none }

/-- The levels of what has been read. -/
def levels (g : OpenGroup) : Nat :=
  (g.branches.add g.parts.levels).levels

end OpenGroup

/-! ## Whole patterns -/

/-- A pattern that has been read up to a place. -/
structure Reading where
  inner : OpenGroup
  /-- The groups around the innermost one, from the inside out. -/
  around : List OpenGroup
  names : List (List Char)
  hasWordBoundary : Bool
deriving DecidableEq, Repr

namespace Reading

def start : Reading :=
  ⟨.start ⟨false, true⟩, [], [], false⟩

def push (r : Reading) (levels : Nat) : Reading :=
  { r with inner := r.inner.push levels }

/-- Put an escape at the end. A byte that is no character of its own is refused, and so is a class
that goes beyond ASCII where it must not. -/
def pushEscape? (r : Reading) (e : Escape) : Option Reading :=
  let unicode := r.inner.mode.unicode
  match e with
  | .character c isByte => if unicode || !isByte || c.toNat < 0x80 then some (r.push 0) else none
  | .charClass isAscii => if unicode || isAscii then some (r.push 0) else none
  | .assertion => some (r.push 0)
  | .wordBoundary => some { r.push 0 with hasWordBoundary := r.hasWordBoundary || unicode }

def openGroup (r : Reading) (m : Mode) : Reading :=
  { r with inner := .start m, around := r.inner :: r.around }

/-- Go on behind an opening parenthesis; a name is given once. -/
def pushOpening? (r : Reading) : Opening → Option Reading
  | .flags m => some { r with inner := r.inner.pushFlags m }
  | .group m => some (r.openGroup m)
  | .named name =>
    if r.names.contains name then none
    else some { r.openGroup r.inner.mode with names := name :: r.names }

def closeGroup? (r : Reading) : Option Reading :=
  match r.around with
  | [] => none
  | outer :: around => some { r with inner := outer.push (r.inner.levels + 1), around }

/-- Drop the mark that makes a repetition as short as possible. -/
def dropLazyMark : List Char → List Char
  | '?' :: rest => rest
  | rest => rest

/-- Read the part that starts with `c`. -/
def step? (r : Reading) (c : Char) (rest : List Char) : Option (Reading × List Char) :=
  match c with
  | '(' => do
    let (o, rest) ← opening? r.inner.mode rest
    return (← r.pushOpening? o, rest)
  | ')' => r.closeGroup?.map (·, rest)
  | '|' => some ({ r with inner := r.inner.branch }, rest)
  | '[' => (charClass? r.inner.mode rest).map fun (levels, rest) => (r.push levels, rest)
  | '?' | '*' | '+' => r.inner.repeat?.map fun g => ({ r with inner := g }, dropLazyMark rest)
  | '{' => none
  | '.' => if r.inner.mode.unicode then some (r.push 0, rest) else none
  | '\\' => do
    let (e, rest) ← escape? r.inner.mode rest
    return (← r.pushEscape? e, rest)
  | _ => some (r.push 0, rest)

theorem dropLazyMark_length_le (cs : List Char) : (dropLazyMark cs).length ≤ cs.length := by
  unfold dropLazyMark
  split <;> simp

theorem step?_length_le {r r' : Reading} {c : Char} {cs rest : List Char}
    (h : r.step? c cs = some (r', rest)) : rest.length ≤ cs.length := by
  unfold step? at h
  split at h
  · simp only [Option.bind_eq_bind, Option.pure_def, Option.bind_eq_some_iff, Option.some.injEq,
      Prod.mk.injEq] at h
    obtain ⟨⟨o, more⟩, ho, _, -, -, rfl⟩ := h
    exact opening?_length_le ho
  · simp only [Option.map_eq_some_iff, Prod.mk.injEq] at h
    obtain ⟨_, -, -, rfl⟩ := h
    exact Nat.le_refl _
  · simp only [Option.some.injEq, Prod.mk.injEq] at h
    exact h.2 ▸ Nat.le_refl _
  · simp only [Option.map_eq_some_iff, Prod.mk.injEq] at h
    obtain ⟨⟨levels, more⟩, hc, -, rfl⟩ := h
    exact charClass?_length_le hc
  · simp only [Option.map_eq_some_iff, Prod.mk.injEq] at h
    obtain ⟨_, -, -, rfl⟩ := h
    exact dropLazyMark_length_le cs
  · simp only [Option.map_eq_some_iff, Prod.mk.injEq] at h
    obtain ⟨_, -, -, rfl⟩ := h
    exact dropLazyMark_length_le cs
  · simp only [Option.map_eq_some_iff, Prod.mk.injEq] at h
    obtain ⟨_, -, -, rfl⟩ := h
    exact dropLazyMark_length_le cs
  · simp at h
  · simp only [Option.ite_none_right_eq_some, Option.some.injEq, Prod.mk.injEq] at h
    exact h.2.2 ▸ Nat.le_refl _
  · simp only [Option.bind_eq_bind, Option.pure_def, Option.bind_eq_some_iff, Option.some.injEq,
      Prod.mk.injEq] at h
    obtain ⟨⟨e, more⟩, he, _, -, -, rfl⟩ := h
    exact Nat.le_of_lt (escape?_length_lt he)
  · simp only [Option.some.injEq, Prod.mk.injEq] at h
    exact h.2 ▸ Nat.le_refl _

/-- Read a pattern to its end. -/
def finish? (r : Reading) (cs : List Char) : Option Reading :=
  match _ : r.inner.mode.skip cs with
  | [] => some r
  | c :: rest =>
    match _ : r.step? c rest with
    | some (next, rest) => finish? next rest
    | none => none
termination_by cs.length
decreasing_by
  have hle := r.inner.mode.skip_length_le cs
  simp only [‹r.inner.mode.skip cs = _›, List.length_cons] at hle
  have := step?_length_le ‹_›
  omega

/-- What is wrong with a pattern that has been read to its end. -/
def verdict (r : Reading) : Except PatternError Unit :=
  if !r.around.isEmpty || nestingLimit < r.inner.levels then .error .malformed
  else if r.hasWordBoundary then .error .unicodeWordBoundary
  else .ok ()

end Reading

/-- Check that a text is a pattern. -/
def check (cs : List Char) : Except PatternError Unit :=
  match Reading.start.finish? cs with
  | some r => r.verdict
  | none => .error .malformed

end FieldPattern

end CloudGraph

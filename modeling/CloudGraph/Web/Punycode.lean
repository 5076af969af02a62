import CloudGraph.Text.Composition

/-!
# Punycode

A text with characters beyond ASCII as a text in ASCII. The characters of ASCII stand first, and
behind a dash the others follow in the order of their code points, each as a number: how many
steps a reader goes on who tries each code point at each place of the text in turn. Numbers are
written in digits `a` to `z` and `0` to `9`, the lowest first; each digit has a threshold, and a
digit below it is the last. The thresholds adapt to the numbers before.
-/

namespace CloudGraph.Web.Punycode

def digit (n : Nat) : Char :=
  Char.ofNat (if n < 26 then 'a'.toNat + n else '0'.toNat + (n - 26))

def digitValue? (c : Char) : Option Nat :=
  if 'a' ≤ c ∧ c ≤ 'z' then some (c.toNat - 'a'.toNat)
  else if 'A' ≤ c ∧ c ≤ 'Z' then some (c.toNat - 'A'.toNat)
  else if '0' ≤ c ∧ c ≤ '9' then some (c.toNat - '0'.toNat + 26)
  else none

/-- The threshold of the digit at a position, which goes up in steps of 36. -/
def threshold (position bias : Nat) : Nat :=
  if position ≤ bias then 1 else if bias + 26 ≤ position then 26 else position - bias

theorem threshold_pos (position bias : Nat) : 0 < threshold position bias := by
  unfold threshold
  split <;> try split
  all_goals omega

/-- Divide until the thresholds suit a number. -/
def biasOf (delta : Nat) : Nat :=
  if 455 < delta then 36 + biasOf (delta / 35) else 36 * delta / (delta + 38)
termination_by delta
decreasing_by exact Nat.div_lt_self (by omega) (by omega)

/-- The bias behind a number; `count` is how many characters there are then. -/
def adapt (delta count : Nat) (first : Bool) : Nat :=
  let delta := if first then delta / 700 else delta / 2
  biasOf (delta + delta / count)

def initialBias : Nat := 72

/-! ## Writing -/

/-- The digits of a number from a position on. -/
def digitsFrom (bias position n : Nat) : List Char :=
  let t := threshold position bias
  if n < t then [digit n]
  else digit (t + (n - t) % (36 - t)) :: digitsFrom bias (position + 36) ((n - t) / (36 - t))
termination_by n
decreasing_by
  have := threshold_pos position bias
  exact Nat.lt_of_le_of_lt (Nat.div_le_self ..) (by omega)

/-- What a writer knows between two characters: the steps since the last number, the bias and how
many characters it has written. -/
structure Writer where
  steps : Nat := 0
  bias : Nat := initialBias
  count : Nat
  digits : List Char := []

namespace Writer

/-- Go past one character of the text, which is written if it is the one that is looked for. -/
def pass (wanted basic : Nat) (w : Writer) (c : Char) : Writer :=
  if c.toNat < wanted then { w with steps := w.steps + 1 }
  else if c.toNat = wanted then
    { steps := 0
      bias := adapt w.steps (w.count + 1) (w.count == basic)
      count := w.count + 1
      digits := w.digits ++ digitsFrom w.bias 36 w.steps }
  else w

/-- Write the characters of a text that have certain code points, from the lowest up; `next` is
the code point that comes first if none is passed over. -/
def writeAll (text : List Char) (basic : Nat) : List Nat → Nat → Writer → Writer
  | [], _, w => w
  | wanted :: rest, next, w =>
    let w := { w with steps := w.steps + (wanted - next) * (w.count + 1) }
    let w := text.foldl (pass wanted basic) w
    writeAll text basic rest (wanted + 1) { w with steps := w.steps + 1 }

end Writer

def encode (cs : List Char) : List Char :=
  let basic := cs.filter Text.isAscii
  let others := ((cs.filter (!Text.isAscii ·)).map Char.toNat).mergeSort.eraseDups
  let written := Writer.writeAll cs basic.length others 0x80 { count := basic.length }
  basic ++ (if basic.isEmpty then [] else ['-']) ++ written.digits

/-! ## Reading -/

/-- A number from a position on, added to `sum`; no number reaches `2 ^ 32`. -/
def numberFrom (bias : Nat) : Nat → Nat → Nat → List Char → Option (Nat × List Char)
  | _, _, _, [] => none
  | position, weight, sum, c :: rest => do
    let d ← digitValue? c
    let sum := sum + d * weight
    let t := threshold position bias
    if 0x100000000 ≤ sum then none
    else if d < t then return (sum, rest)
    else if 0x100000000 ≤ weight * (36 - t) then none
    else numberFrom bias (position + 36) (weight * (36 - t)) sum rest

theorem numberFrom_rest_lt {bias : Nat} {cs : List Char} {position weight sum n : Nat}
    {rest : List Char} (h : numberFrom bias position weight sum cs = some (n, rest)) :
    rest.length < cs.length := by
  induction cs generalizing position weight sum with
  | nil => simp [numberFrom] at h
  | cons c cs ih =>
    rw [numberFrom] at h
    simp only [Option.bind_eq_bind, Option.bind_eq_some_iff] at h
    obtain ⟨d, _, h⟩ := h
    split at h
    · simp at h
    · split at h
      · simp only [pure, Option.some.injEq, Prod.mk.injEq] at h
        simp [h.2]
      · split at h
        · simp at h
        · exact Nat.lt_succ_of_lt (ih h)

/-- Put in the characters that the numbers of a text tell: the next one is `code` or a later one,
at the place `place` or a later one. -/
def insertAll (bias code place : Nat) (done : List Char) (cs : List Char) : Option (List Char) :=
  if cs.isEmpty then some done
  else
    match h : numberFrom bias 36 1 place cs with
    | none => none
    | some (n, rest) =>
      let count := done.length + 1
      let code := code + n / count
      if code.isValidChar then
        have := numberFrom_rest_lt h
        insertAll (adapt (n - place) count (place == 0)) code (n % count + 1)
          (done.insertIdx (n % count) (Char.ofNat code)) rest
      else none
termination_by cs.length

/-- The text that was written so. -/
def decode? (cs : List Char) : Option (List Char) :=
  let digits := (cs.reverse.takeWhile (· ≠ '-')).reverse
  let basic := cs.take (cs.length - digits.length - 1)
  if digits.length < cs.length ∧ basic.isEmpty then none
  else insertAll initialBias 0x80 0 basic digits

example : encode "bücher".toList = "bcher-kva".toList := by cbv

example : decode? "bcher-kva".toList = some "bücher".toList := by cbv

end CloudGraph.Web.Punycode

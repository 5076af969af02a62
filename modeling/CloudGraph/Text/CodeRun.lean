import CloudGraph.Text.Hexadecimal

/-!
# Runs of code points

Tables of characters are kept as texts of runs with blanks between them. A run is a code point
`a`, all code points `a-b`, or those from `a` to `b` in steps, `a-b/s`. Behind `=` it may say what
its code points stand for: one code point, which moves along with the run, or several with `+`
between them. All numbers are hexadecimal.
-/

namespace CloudGraph.Text

/-- The code points `first`, `first + step`, … up to `last`, and what stands for them. -/
structure CodeRun where
  first : Nat
  last : Nat
  step : Nat
  image : List Nat
deriving DecidableEq, Repr

namespace CodeRun

def covers (r : CodeRun) (n : Nat) : Bool :=
  r.first ≤ n && n ≤ r.last && (n - r.first) % r.step == 0

/-- What a code point of the run stands for. -/
def imageOf (r : CodeRun) (n : Nat) : List Nat :=
  match r.image with
  | [first] => [first + (n - r.first)]
  | image => image

/-- Cut a text at a mark, and take the mark away. -/
def cut (mark : Char) (cs : List Char) : List Char × List Char :=
  let (before, behind) := cs.span (· ≠ mark)
  (before, behind.drop 1)

def ofChars? (cs : List Char) : Option CodeRun := do
  let (range, image) := cut '=' cs
  let (range, step) := cut '/' range
  let (first, last) := cut '-' range
  let first ← valueOfDigits? 16 first
  let last ← if last.isEmpty then some first else valueOfDigits? 16 last
  let step ← if step.isEmpty then some 1 else valueOfDigits? 16 step
  let image ←
    if image.isEmpty then some [] else (image.splitOnP (· == '+')).mapM (valueOfDigits? 16)
  return { first, last, step, image }

/-- The runs that a text lists. -/
def listOf (text : String) : List CodeRun :=
  ((text.toList.splitOnP Char.isWhitespace).filter (!·.isEmpty)).filterMap ofChars?

end CodeRun

/-- Whether one of the runs holds a character. -/
def inRuns (runs : List CodeRun) (c : Char) : Bool :=
  runs.any (·.covers c.toNat)

/-- What a character stands for, if one of the runs holds it. -/
def imageIn? (runs : List CodeRun) (c : Char) : Option (List Nat) :=
  (runs.find? (·.covers c.toNat)).map (·.imageOf c.toNat)

example : CodeRun.listOf "41-5a=61 100-136/2=101 df=73+73" =
    [⟨0x41, 0x5A, 1, [0x61]⟩, ⟨0x100, 0x136, 2, [0x101]⟩, ⟨0xDF, 0xDF, 1, [0x73, 0x73]⟩] := by
  cbv

end CloudGraph.Text

/-!
# Arrays in free text

`firstArray?` cuts the array out of a reply that has words around it: from the first `[` to the
`]` that closes it. A bracket in a quoted text does not count.

The scan keeps how many brackets are open and whether it is in a text, and takes characters
until none is open.
-/

namespace CloudGraph.Advisory

/-- Where a character stands with respect to quoted texts. -/
inductive Quoting where
  | outside
  | inside
  /-- Behind a backslash in a text. -/
  | escaped
deriving DecidableEq, Repr

structure Scan where
  /-- How many brackets are open. -/
  depth : Nat := 0
  quoting : Quoting := .outside
deriving DecidableEq, Repr

namespace Scan

/-- The state behind a character. -/
def step (s : Scan) (c : Char) : Scan :=
  match s.quoting with
  | .escaped => { s with quoting := .inside }
  | .inside =>
    if c = '\\' then { s with quoting := .escaped }
    else if c = '"' then { s with quoting := .outside }
    else s
  | .outside =>
    if c = '"' then { s with quoting := .inside }
    else if c = '[' then { s with depth := s.depth + 1 }
    else if c = ']' then { s with depth := s.depth - 1 }
    else s

/-- The state behind a list of characters. -/
def run (s : Scan) (cs : List Char) : Scan :=
  cs.foldl step s

/-- Whether a character closes the last open bracket. -/
def closes (s : Scan) (c : Char) : Bool :=
  s.quoting = .outside && c = ']' && (s.step c).depth = 0

/-- The characters up to the one that closes the last open bracket. -/
def takeBalanced (s : Scan) : List Char → Option (List Char)
  | [] => none
  | c :: rest =>
    if s.closes c then some [c] else ((s.step c).takeBalanced rest).map (c :: ·)

end Scan

def firstArrayChars? (cs : List Char) : Option (List Char) :=
  Scan.takeBalanced {} (cs.dropWhile (· ≠ '['))

/-- The array that starts at the first opening bracket of a text. -/
def firstArray? (text : String) : Option String :=
  (firstArrayChars? text.toList).map String.ofList

end CloudGraph.Advisory

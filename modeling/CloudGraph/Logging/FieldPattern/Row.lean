/-!
# Rows of parts

How deep the parts of a pattern nest. A row of several parts is a level of its own, while a
single part takes the place of its row.
-/

namespace CloudGraph.FieldPattern

structure Row where
  size : Nat
  /-- The levels inside the deepest part. -/
  depth : Nat
deriving DecidableEq, Repr

namespace Row

def empty : Row := ⟨0, 0⟩

def add (r : Row) (depth : Nat) : Row :=
  ⟨r.size + 1, max r.depth depth⟩

/-- Put the last part of a row one level deeper. -/
def wrapLast (r : Row) (last : Nat) : Row :=
  { r with depth := max r.depth (last + 1) }

/-- The levels of the row and what is in it. -/
def levels (r : Row) : Nat :=
  if r.size ≤ 1 then r.depth else r.depth + 1

end Row

end CloudGraph.FieldPattern

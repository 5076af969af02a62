import CloudGraph.Total

/-!
# Places counted in bytes

A place in a text can be given as the number of UTF-8 bytes in front of it. `splitAtByte?` cuts a
text at such a place, and `slice?` takes what lies between two of them; a place inside a
character is none.
-/

namespace CloudGraph.Text

/-- The number of bytes that characters take. -/
def byteSize (cs : List Char) : Nat :=
  total Char.utf8Size cs

/-- Cut a text behind its first `n` bytes. -/
def splitAtByte? (n : Nat) : List Char → Option (List Char × List Char)
  | [] => if n = 0 then some ([], []) else none
  | c :: cs =>
    if n = 0 then some ([], c :: cs)
    else if c.utf8Size ≤ n then
      (splitAtByte? (n - c.utf8Size) cs).map fun (before, behind) => (c :: before, behind)
    else none

/-- The characters from one place to another. -/
def slice? (cs : List Char) (first last : Nat) : Option (List Char) := do
  let (_, behind) ← splitAtByte? first cs
  return (← splitAtByte? (last - first) behind).1

end CloudGraph.Text

import CloudGraph.Decimal.Binary64
import CloudGraph.Text.Blank

/-!
# Identifiers

`Style.sanitize` turns any text into an identifier of a target: `[a-z_][a-z0-9_]*` or, without
underscores, `[a-z][a-z0-9]*`, up to a length of at least 1. An allocator hands out each
identifier once: a name that is taken gets the first number from 2 that makes it new, at the
expense of its end where the length is bounded.
-/

namespace CloudGraph

/-- The characters that identifiers of a target may hold. -/
inductive IdentifierStyle where
  /-- Letters, digits and underscores. -/
  | snake
  /-- Letters and digits. -/
  | alphanumeric
deriving DecidableEq, Repr

namespace Identifier

/-- The name of what has no usable character. -/
def fallback : List Char := "resource".toList

def isSnakeChar (c : Char) : Bool :=
  c.isLower || c.isDigit || c == '_'

/-- A character of an identifier: lower case, or an underscore for what is not allowed. -/
def fold (c : Char) : Char :=
  if isSnakeChar c.toLower then c.toLower else '_'

/-- Put `mark` before a digit that comes first, and the fallback in the place of nothing. -/
def startWith (mark : Char) : List Char → List Char
  | [] => fallback
  | c :: cs => if c.isDigit then mark :: c :: cs else c :: cs

def snakeChars (raw : String) : List Char :=
  startWith '_' ((Text.trimChars raw.toList).map fold)

def alphanumericChars (raw : String) : List Char :=
  startWith 'r' ((snakeChars raw).filter (· != '_'))

/-- The identifier of a text, of at most `maxLength` characters but at least one. -/
def sanitize (style : IdentifierStyle) (raw : String) (maxLength : Nat) : String :=
  let chars := match style with
    | .snake => snakeChars raw
    | .alphanumeric => alphanumericChars raw
  String.ofList (chars.take (max maxLength 1))

end Identifier

/-- The names already handed out, or reserved. -/
structure NameAllocator where
  maxLength : Nat
  style : IdentifierStyle := .snake
  used : List String := []

namespace NameAllocator

/-- What a repeated name ends in. -/
def suffix (style : IdentifierStyle) (n : Nat) : List Char :=
  match style with
  | .snake => '_' :: Decimal.digitText n
  | .alphanumeric => Decimal.digitText n

/-- The `n`-th variant of a name within the length bound. -/
def variant (a : NameAllocator) (base : String) (n : Nat) : String :=
  let end_ := suffix a.style n
  String.ofList (base.toList.take (a.maxLength - end_.length) ++ end_)

/-- The first new variant from number `n` on, among as many as there is fuel for. -/
def firstNew (a : NameAllocator) (base : String) : Nat → Nat → String
  | 0, n => a.variant base n
  | fuel + 1, n =>
    let name := a.variant base n
    if a.used.contains name then firstNew a base fuel (n + 1) else name

/-- How many variants are tried at most. Variants with numbers of equal length differ, and some
length below this bound has more numbers than there are names in use. -/
def attempts (a : NameAllocator) : Nat :=
  100 * (a.used.length + 2)

def choose (a : NameAllocator) (raw : String) : String :=
  let base := Identifier.sanitize a.style raw a.maxLength
  if a.used.contains base then a.firstNew base a.attempts 2 else base

/-- A new name for a text, and the allocator that knows it. -/
def allocate (a : NameAllocator) (raw : String) : String × NameAllocator :=
  let name := a.choose raw
  (name, { a with used := name :: a.used })

/-- Names for several texts in turn. -/
def allocateAll (a : NameAllocator) : List String → List String × NameAllocator
  | [] => ([], a)
  | raw :: rest =>
    let (name, a) := a.allocate raw
    let (names, a) := allocateAll a rest
    (name :: names, a)

end NameAllocator

end CloudGraph

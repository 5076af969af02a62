import CloudGraph.Decimal.Binary64
import CloudGraph.Text.Hexadecimal

/-!
# Internet addresses

An address of four bytes is read from up to four numbers with points between them, in decimal,
behind `0x` in hexadecimal and behind a zero in octal; the last number fills the bytes that are
left. An address of eight groups is read from hexadecimal groups with colons between them, where
`::` stands for at least one group of zero and four decimal bytes may stand for the last two.
-/

namespace CloudGraph.Web

/-- Cut a text at each character of a kind. -/
def cutAt (mark : Char) (cs : List Char) : List (List Char) :=
  cs.splitOnP (· == mark)

structure Ipv4 where
  value : Nat
deriving DecidableEq, Repr

namespace Ipv4

/-- A number of an address. Behind a prefix no digits are zero. -/
def number? : List Char → Option Nat
  | [] => none
  | '0' :: 'x' :: digits => Text.valueOfDigits? 16 digits
  | '0' :: c :: digits => Text.valueOfDigits? 8 (c :: digits)
  | digits => Text.valueOfDigits? 10 digits

/-- The parts of a name between its points, without the empty one behind a point at its end. -/
def parts (name : List Char) : List (List Char) :=
  match (cutAt '.' name).reverse with
  | [] :: rest => rest.reverse
  | parts => parts.reverse

/-- Whether a name can only be an address of this kind: its last part is a number. -/
def isLike (name : List Char) : Bool :=
  match (parts name).getLast? with
  | some part => (!part.isEmpty && part.all Char.isDigit) || (number? part).isSome
  | none => false

/-- The value of numbers; `left` is how many bytes they have to fill. -/
def valueOf? : Nat → List Nat → Option Nat
  | left, [n] => if n < 256 ^ left then some n else none
  | left + 1, n :: rest => do
    if n < 256 then return n * 256 ^ left + (← valueOf? left rest) else none
  | _, _ => none

def ofName? (name : List Char) : Option Ipv4 := do
  let numbers ← (parts name).mapM number?
  if 4 < numbers.length then none else return ⟨← valueOf? 4 numbers⟩

def bytes (a : Ipv4) : List Nat :=
  [a.value / 0x1000000, a.value / 0x10000 % 256, a.value / 0x100 % 256, a.value % 256]

def text (a : Ipv4) : String :=
  ".".intercalate (a.bytes.map fun b => String.ofList (Decimal.digitText b))

end Ipv4

structure Ipv6 where
  groups : List Nat
deriving DecidableEq, Repr

namespace Ipv6

/-- A group of one to four hexadecimal digits. -/
def group? (cs : List Char) : Option Nat :=
  if cs.isEmpty || 4 < cs.length then none else Text.valueOfDigits? 16 cs

/-- A decimal byte without a needless zero. -/
def byte? (cs : List Char) : Option Nat :=
  if cs.isEmpty || (cs.head? == some '0' && 1 < cs.length) then none
  else (Text.valueOfDigits? 10 cs).filter (· < 256)

/-- The two groups that four decimal bytes make. -/
def groupsOfBytes? (cs : List Char) : Option (List Nat) :=
  match (cutAt '.' cs).mapM byte? with
  | some [a, b, c, d] => some [a * 256 + b, c * 256 + d]
  | _ => none

/-- The groups of parts; the last part may be four decimal bytes if `mixed`. -/
def groupsOf? (mixed : Bool) : List (List Char) → Option (List Nat)
  | [] => some []
  | [part] => if mixed && part.contains '.' then groupsOfBytes? part else (group? part).map ([·])
  | part :: rest => do return (← group? part) :: (← groupsOf? mixed rest)

/-- The groups of a text, which may be empty. -/
def groupsOfText? (mixed : Bool) (cs : List Char) : Option (List Nat) :=
  if cs.isEmpty then some [] else groupsOf? mixed (cutAt ':' cs)

/-- What stands before and behind the first `::`. -/
def splitGap : List Char → Option (List Char × List Char)
  | ':' :: ':' :: rest => some ([], rest)
  | c :: rest => (splitGap rest).map fun (before, behind) => (c :: before, behind)
  | [] => none

def ofText? (cs : List Char) : Option Ipv6 :=
  match splitGap cs with
  | some (before, behind) => do
    let before ← groupsOfText? false before
    let behind ← groupsOfText? true behind
    let count := before.length + behind.length
    if count < 8 then return ⟨before ++ List.replicate (8 - count) 0 ++ behind⟩ else none
  | none => (groupsOfText? true cs).bind fun groups =>
    if groups.length = 8 then some ⟨groups⟩ else none

/-- How many zeros a list starts with. -/
def leadingZeros (groups : List Nat) : Nat :=
  (groups.takeWhile (· == 0)).length

/-- The first of the longest runs of zeros: where it starts and how long it is. -/
def longestZeros (groups : List Nat) : Nat × Nat :=
  (List.range groups.length).foldl (fun best i =>
    let count := leadingZeros (groups.drop i)
    if best.2 < count then (i, count) else best) (0, 0)

/-- Groups without leading zeros, with colons between them. -/
def textOf (groups : List Nat) : String :=
  let digits (n : Nat) : List Char :=
    match (Text.hexDigits 4 n).dropWhile (· == '0') with
    | [] => ['0']
    | digits => digits
  ":".intercalate (groups.map fun n => String.ofList (digits n))

/-- The text of an address; the longest run of at least two zeros is left out. -/
def text (a : Ipv6) : String :=
  let (start, count) := longestZeros a.groups
  if count < 2 then textOf a.groups
  else textOf (a.groups.take start) ++ "::" ++ textOf (a.groups.drop (start + count))

end Ipv6

end CloudGraph.Web

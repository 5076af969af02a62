import CloudGraph.SortedMap

/-!
# YAML nodes

A node is a scalar, a sequence or a mapping. An alias stands for a copy of the node that its
anchor names. The copies inside a copy count too, so a short text may stand for a very large
tree; `Node.isAffordable` bounds the copies that a reader makes by the parts of the text.
-/

namespace CloudGraph.Yaml

inductive Node where
  | scalar (tag : Option String) (plain : Bool) (text : String)
  | sequence (tag : Option String) (items : List Node)
  | mapping (tag : Option String) (entries : List (Node × Node))
  /-- A place that refers to a node by its number. It stays where a node contains itself, and no
  reader accepts it as a value. -/
  | alias (number : Nat)
  /-- A copy of a node, and how many copies it takes to read it. -/
  | copy (count : Nat) (node : Node)
deriving Inhabited

/-- How far a reader goes into a node. -/
inductive Extent where
  | whole
  | items (each : Extent)
  | fields (named : List (String × Extent))

namespace Node

/-- The node of a place that is left empty. -/
def empty : Node := .scalar none true ""

/-- The node that a copy is of. -/
def target : Node → Node
  | .copy _ n => n.target
  | n => n

/-- The text of a scalar, which is what a key is. -/
def keyText? (n : Node) : Option String :=
  match n.target with
  | .scalar _ _ text => some text
  | _ => none

/-! ## Copies -/

mutual

/-- How many copies it takes to read a node. Of a field that the reader does not know only the
key is read. -/
def copies (extent : Extent) : Node → Nat
  | .sequence _ items =>
    match extent with
    | .whole => itemsCopies .whole items
    | .items each => itemsCopies each items
    | .fields _ => 0
  | .mapping _ entries =>
    match extent with
    | .whole => entriesCopies none entries
    | .items _ => 0
    | .fields named => entriesCopies (some named) entries
  | .copy count n =>
    match extent with
    | .whole => count
    | extent => n.copies extent + 1
  | .scalar .. | .alias _ => 0

def itemsCopies (each : Extent) : List Node → Nat
  | [] => 0
  | n :: rest => n.copies each + itemsCopies each rest

def entriesCopies (named? : Option (List (String × Extent))) : List (Node × Node) → Nat
  | [] => 0
  | (k, v) :: rest =>
    let extent? := match named? with
      | some named => k.keyText?.bind fun key => lookup key named
      | none => some .whole
    let inValue := match extent? with
      | some extent => v.copies extent
      | none => 0
    k.copies .whole + inValue + entriesCopies named? rest

end

mutual

/-- How many parts a text has that a node is read from: its scalars, its aliases and the two ends
of each collection. -/
def parts : Node → Nat
  | .sequence _ items => itemsParts items + 2
  | .mapping _ entries => entriesParts entries + 2
  | .scalar .. | .alias _ | .copy .. => 1

def itemsParts : List Node → Nat
  | [] => 0
  | n :: rest => n.parts + itemsParts rest

def entriesParts : List (Node × Node) → Nat
  | [] => 0
  | (k, v) :: rest => k.parts + v.parts + entriesParts rest

end

/-- How many copies a reader may make for each part of a text. -/
def copiesPerPart : Nat := 100

def isAffordable (extent : Extent) (n : Node) : Bool :=
  n.copies extent ≤ n.parts * copiesPerPart

mutual

/-- Put copies of numbered nodes in the places that refer to them. -/
def fill (named : List (Nat × Node)) : Node → Node
  | .sequence tag items => .sequence tag (fillItems named items)
  | .mapping tag entries => .mapping tag (fillEntries named entries)
  | .alias number =>
    match named.lookup number with
    | some n => .copy (n.copies .whole + 1) n
    | none => .alias number
  | .scalar tag plain text => .scalar tag plain text
  | .copy count n => .copy count n

def fillItems (named : List (Nat × Node)) : List Node → List Node
  | [] => []
  | n :: rest => n.fill named :: fillItems named rest

def fillEntries (named : List (Nat × Node)) : List (Node × Node) → List (Node × Node)
  | [] => []
  | (k, v) :: rest => (k.fill named, v.fill named) :: fillEntries named rest

end

/-- The numbered nodes after a number of rounds that put copies of them into each other. -/
def fillEach (named : List (Nat × Node)) : Nat → List (Nat × Node)
  | 0 => []
  | rounds + 1 =>
    let before := fillEach named rounds
    named.map fun e => (e.1, e.2.fill before)

/-- A node with all copies in it. A chain of aliases that does not come back to itself is no
longer than the list of numbered nodes, so as many rounds are enough. -/
def fillFrom (named : List (Nat × Node)) (n : Node) : Node :=
  n.fill (fillEach named named.length)

end Node

end CloudGraph.Yaml

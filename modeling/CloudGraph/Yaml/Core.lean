import CloudGraph.Decimal.Reader
import CloudGraph.Json.Raw
import CloudGraph.Yaml.Node

/-!
# The values of YAML nodes

A plain scalar is a null, a boolean, an integer, a double or, failing these, a text. Integers
may be written in decimal or, behind `0x`, `0o` and `0b`, to another base; digits behind a
leading zero are a text. An integer has a value only if 64 bits hold it; an infinite double or
one that is not a number becomes null, and so does an empty scalar.
-/

namespace CloudGraph.Yaml

def isNullText (s : List Char) : Bool :=
  ["null", "Null", "NULL", "~"].contains (String.ofList s)

def boolOfText? (s : List Char) : Option Bool :=
  let s := String.ofList s
  if ["true", "True", "TRUE"].contains s then some true
  else if ["false", "False", "FALSE"].contains s then some false
  else none

/-- The value of one or more digits. -/
def natOfText? (base : Nat) (s : List Char) : Option Nat :=
  if s.isEmpty then none else Text.valueOfDigits? base s

/-- Digits behind a leading zero, with or without a sign. -/
def isZeroLed (s : List Char) : Bool :=
  let digits := match s with
    | '+' :: rest | '-' :: rest => rest
    | _ => s
  match digits with
  | '0' :: c :: rest => (c :: rest).all Char.isDigit
  | _ => false

/-- The magnitude of an integer without its sign. -/
def magnitude? : List Char → Option Nat
  | '0' :: 'x' :: rest => natOfText? 16 rest
  | '0' :: 'o' :: rest => natOfText? 8 rest
  | '0' :: 'b' :: rest => natOfText? 2 rest
  | s => natOfText? 10 s

def integerOfText? (s : List Char) : Option Int :=
  if isZeroLed s then none
  else match s with
    | '+' :: rest => (magnitude? rest).map Int.ofNat
    | '-' :: rest => (magnitude? rest).map fun n => -(n : Int)
    | _ => (magnitude? s).map Int.ofNat

/-- The double of a plain scalar; one that is not finite has to be written by its name. -/
def doubleOfText? (s : List Char) : Option Float :=
  let text := String.ofList s
  let unsigned := match s with
    | '+' :: rest => rest
    | _ => s
  if [".inf", ".Inf", ".INF"].contains (String.ofList unsigned) then some (1.0 / 0.0)
  else if ["-.inf", "-.Inf", "-.INF"].contains text then some (-1.0 / 0.0)
  else if [".nan", ".NaN", ".NAN"].contains text then some (0.0 / 0.0)
  else
    let (negative, rest) := Decimal.splitSign s
    (Decimal.unsigned? negative rest).filter Float.isFinite

def ofDouble (x : Float) : Json :=
  if x.isFinite then .num (.double x) else .null

/-- An integer that 64 bits do not hold has no value, up to the range of 128 bits; what lies
beyond that is a double. -/
def ofInteger? (n : Int) : Option (Option Json) :=
  match Number.ofInt? n with
  | some number => some (some (.num number))
  | none => if -0x80000000000000000000000000000000 ≤ n ∧ n < 0x100000000000000000000000000000000 then some none else none

def ofPlain? (text : String) : Option Json :=
  let s := text.toList
  if s.isEmpty || isNullText s then some .null
  else match boolOfText? s with
    | some b => some (.bool b)
    | none =>
      match (integerOfText? s).bind ofInteger? with
      | some value => value
      | none =>
        if isZeroLed s then some (.str text)
        else match doubleOfText? s with
          | some x => some (ofDouble x)
          | none => some (.str text)

def coreTag (name : String) : Option String :=
  some ("tag:yaml.org,2002:" ++ name)

/-- A tag that a document defines for itself; no value has one. -/
def isLocalTag (tag : Option String) : Bool :=
  match tag with
  | some t => t.startsWith "!"
  | none => false

def ofScalar? (tag : Option String) (plain : Bool) (text : String) : Option Json :=
  let s := text.toList
  if isLocalTag tag then none
  else if tag == coreTag "bool" then (boolOfText? s).map .bool
  else if tag == coreTag "int" then ((integerOfText? s).bind ofInteger?).join
  else if tag == coreTag "float" then (doubleOfText? s).map ofDouble
  else if tag == coreTag "null" then (if isNullText s then some .null else none)
  else if tag.isNone && plain then ofPlain? text
  else some (.str text)

mutual

/-- The value of a node that nests at most `limit` deep; of equal keys the last counts. -/
def Node.toJson? (limit : Nat) : Node → Option Json
  | .scalar tag plain text => ofScalar? tag plain text
  | .sequence tag items =>
    match limit with
    | 0 => none
    | limit + 1 => if isLocalTag tag then none else (itemsToJson? limit items).map .arr
  | .mapping tag entries =>
    match limit with
    | 0 => none
    | limit + 1 => if isLocalTag tag then none else (entriesToJson? limit entries []).map .obj
  | .copy _ n => n.toJson? limit
  | .alias _ => none

def itemsToJson? (limit : Nat) : List Node → Option (List Json)
  | [] => some []
  | n :: rest => do
    let v ← n.toJson? limit
    let rest ← itemsToJson? limit rest
    return v :: rest

def entriesToJson? (limit : Nat) :
    List (Node × Node) → List (String × Json) → Option (List (String × Json))
  | [], members => some members
  | (k, n) :: rest, members => do
    let key ← k.keyText?
    let v ← n.toJson? limit
    entriesToJson? limit rest (insertEntry key v members)

end

/-- How deep collections may nest in a document. -/
def maxDepth : Nat := 128

end CloudGraph.Yaml

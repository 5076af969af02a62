import CloudGraph.Json.Raw
import CloudGraph.Toml.Basic
import CloudGraph.Yaml.Core

/-!
# Documents

A document is a tree that records are read from: JSON, YAML or TOML. `Document` gathers what a
reader of records asks of a tree, so that one reader serves several formats. A record knows its
fields: a known field given twice is an error and an unknown one is ignored. A record of JSON or
TOML may also be an array of its fields in order, and a point in time is a record of TOML without
known fields.

`BagDocument` adds open bags of values, `TypedDocument` numbers and other leaves.
-/

namespace CloudGraph

class Document (τ : Type) where
  /-- The text of a leaf. -/
  text? : τ → Option String
  /-- The name of a choice. -/
  choice? : τ → Option String
  items? : τ → Option (List τ)
  /-- The fields of a record with these names, each at most once. -/
  record? : List String → τ → Option (List (String × τ))

class BagDocument (τ : Type) extends Document τ where
  /-- The members of an open bag that stands inside a number of other collections. -/
  members? : Nat → τ → Option (List (String × Json))

class TypedDocument (τ : Type) extends Document τ where
  isNull : τ → Bool
  flag? : τ → Option Bool
  integer? : τ → Option Int
  /-- The double that a number, also a whole one, stands for. -/
  double? : τ → Option Float

namespace Document

variable {τ α : Type} [Document τ]

/-- Read a field that must be there. -/
def required (fields : List (String × τ)) (name : String) (read : τ → Option α) : Option α :=
  (lookup name fields).bind read

/-- Read a field that has a default. -/
def optional (fields : List (String × τ)) (name : String) (default : α)
    (read : τ → Option α) : Option α :=
  match lookup name fields with
  | some d => read d
  | none => some default

/-- Read a field whose null or absence means that nothing is set. -/
def nullable {τ : Type} [TypedDocument τ] (fields : List (String × τ)) (name : String)
    (read : τ → Option α) : Option (Option α) :=
  match lookup name fields with
  | some d => if TypedDocument.isNull d then some none else (read d).map some
  | none => some none

/-- Gather the known fields among named members. -/
def gather (names : List String) (found : List (String × τ)) :
    List (Option String × τ) → Option (List (String × τ))
  | [] => some found
  | (none, _) :: _ => none
  | (some name, d) :: rest =>
    if names.contains name then
      if (lookup name found).isSome then none else gather names ((name, d) :: found) rest
    else gather names found rest

end Document

namespace Raw

def text? : Raw → Option String
  | .text s => s
  | _ => none

/-- A choice is a text, or an object with the choice as its only key and null under it. -/
def choice? : Raw → Option String
  | .text s => s
  | .object [(name, .null)] => name
  | _ => none

def items? : Raw → Option (List Raw)
  | .array items => some items
  | _ => none

def record? (names : List String) : Raw → Option (List (String × Raw))
  | .object members => Document.gather names [] members
  | .array items => if items.length ≤ names.length then some (names.zip items) else none
  | _ => none

def members? (level : Nat) (r : Raw) : Option (List (String × Json)) :=
  match r.toJson? (Json.maxDepth - level) with
  | some (.obj members) => some members
  | _ => none

end Raw

namespace Raw

def isNull : Raw → Bool
  | .null => true
  | _ => false

def flag? : Raw → Option Bool
  | .bool b => some b
  | _ => none

def integer? : Raw → Option Int
  | .number (some (.int n _)) => some n
  | _ => none

def double? : Raw → Option Float
  | .number (some (.int n _)) => some (Decimal.ofDecimal (n < 0) n.natAbs 0)
  | .number (some (.double x)) => some x
  | _ => none

end Raw

instance : BagDocument Raw where
  text? := Raw.text?
  choice? := Raw.choice?
  items? := Raw.items?
  record? := Raw.record?
  members? := Raw.members?

instance : TypedDocument Raw where
  isNull := Raw.isNull
  flag? := Raw.flag?
  integer? := Raw.integer?
  double? := Raw.double?

namespace Yaml.Node

/-- Whether a place was left empty; it counts as an empty collection. -/
def isEmpty (n : Node) : Bool :=
  match n.target with
  | .scalar _ plain text => plain && text.isEmpty
  | _ => false

def choice? (n : Node) : Option String :=
  match n.target with
  | .scalar tag plain text =>
    if isLocalTag tag then
      if plain && (text.isEmpty || isNullText text.toList) then tag.map fun t => (t.drop 1).toString
      else none
    else some text
  | _ => none

def items? (n : Node) : Option (List Node) :=
  match n.target with
  | .sequence _ items => some items
  | n => if n.isEmpty then some [] else none

def record? (names : List String) (n : Node) : Option (List (String × Node)) :=
  match n.target with
  | .mapping _ entries =>
    if entries.all fun e => e.1.keyText?.isSome then
      Document.gather names [] (entries.map fun e => (e.1.keyText?, e.2))
    else none
  | n => if n.isEmpty then some [] else none

def members? (level : Nat) (n : Node) : Option (List (String × Json)) :=
  match n.target with
  | .mapping _ entries =>
    if level < maxDepth then entriesToJson? (maxDepth - level - 1) entries [] else none
  | n => if n.isEmpty then some [] else none

end Yaml.Node

instance : BagDocument Yaml.Node where
  text? := Yaml.Node.keyText?
  choice? := Yaml.Node.choice?
  items? := Yaml.Node.items?
  record? := Yaml.Node.record?
  members? := Yaml.Node.members?

namespace Toml.Value

def text? : Value → Option String
  | .text s => some s
  | _ => none

/-- A choice is a text, or a table with the choice as its only key and nothing under it. -/
def choice? : Value → Option String
  | .text s => some s
  | .table [(name, .table [])] | .table [(name, .array [])] => some name
  | _ => none

def items? : Value → Option (List Value)
  | .array items => some items
  | _ => none

def record? (names : List String) : Value → Option (List (String × Value))
  | .table entries => some (entries.filter fun e => names.contains e.1)
  | .array items => some (names.zip items)
  | .moment => some []
  | _ => none

def flag? : Value → Option Bool
  | .flag b => some b
  | _ => none

def integer? : Value → Option Int
  | .integer n => some n
  | _ => none

def double? : Value → Option Float
  | .integer n => some (Decimal.ofDecimal (n < 0) n.natAbs 0)
  | .double x => some x
  | _ => none

end Toml.Value

instance : TypedDocument Toml.Value where
  text? := Toml.Value.text?
  choice? := Toml.Value.choice?
  items? := Toml.Value.items?
  record? := Toml.Value.record?
  isNull _ := false
  flag? := Toml.Value.flag?
  integer? := Toml.Value.integer?
  double? := Toml.Value.double?

end CloudGraph

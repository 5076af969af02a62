import CloudGraph.Toml.Basic

/-!
# Building TOML tables

A document defines its tables piece by piece: by headers, by dotted keys, and by what these
imply. A table that a header or braces defined is complete; one that a dotted key made grows
only by dotted keys in the same section; one that the path of a header implied may still be
defined, once.
-/

namespace CloudGraph.Toml

/-- How a table came about. -/
inductive Origin where
  | defined
  | implied
  | dotted
deriving DecidableEq, Repr

/-- What a key of a table under construction stands for. -/
inductive Item where
  | value (value : Value)
  | table (origin : Origin) (entries : List (String × Item))
  | tables (each : List (List (String × Item)))

abbrev Entries := List (String × Item)

namespace Entries

def find? (es : Entries) (key : String) : Option Item :=
  (List.find? (·.1 == key) es).map (·.2)

/-- Put an item in the place of the one under its key, or at the end. -/
def put (es : Entries) (key : String) (item : Item) : Entries :=
  if es.any (·.1 == key) then es.map fun e => if e.1 == key then (key, item) else e
  else es ++ [(key, item)]

/-- Change the table at the end of a path; the last of several tables under one key counts.
`through` is what makes tables that are missing on the path. -/
def update (through : Origin) (change : Origin → Entries → Option Entries) :
    List String → Origin → Entries → Option Entries
  | [], origin, es => change origin es
  | key :: path, _, es =>
    match es.find? key with
    | none => do
      let inner ← update through change path through []
      return es.put key (.table through inner)
    | some (.value _) => none
    | some (.table origin inner) =>
      if through = .dotted ∧ origin = .defined then none
      else do
        let inner ← update through change path origin inner
        return es.put key (.table origin inner)
    | some (.tables each) => do
      let last ← each.getLast?
      let inner ← update through change path .defined last
      return es.put key (.tables (each.dropLast ++ [inner]))

/-- Add a value under a dotted key. -/
def addValue (es : Entries) (path : List String) (key : String) (v : Value) : Option Entries :=
  update .dotted (fun origin inner =>
    if (path.isEmpty || origin = .dotted) && (inner.find? key).isNone then
      some (inner.put key (.value v))
    else none) path .defined es

/-- Define the table under a header with the entries that `fill` adds. -/
def define (es : Entries) (path : List String) (key : String)
    (fill : Entries → Option Entries) : Option Entries :=
  update .implied (fun _ inner =>
    match inner.find? key with
    | none => do return inner.put key (.table .defined (← fill []))
    | some (.table .implied old) => do return inner.put key (.table .defined (← fill old))
    | some _ => none) path .defined es

/-- Append a table to those under a doubled header. -/
def append (es : Entries) (path : List String) (key : String)
    (fill : Entries → Option Entries) : Option Entries :=
  update .implied (fun _ inner =>
    match inner.find? key with
    | none => do return inner.put key (.tables [← fill []])
    | some (.tables each) => do return inner.put key (.tables (each ++ [← fill []]))
    | some _ => none) path .defined es

end Entries

mutual

def Item.toValue : Item → Value
  | .value v => v
  | .table _ entries => .table (entryValues entries)
  | .tables each => .array (tableValues each)

def entryValues : List (String × Item) → List (String × Value)
  | [] => []
  | (k, item) :: rest => (k, item.toValue) :: entryValues rest

def tableValues : List (List (String × Item)) → List Value
  | [] => []
  | entries :: rest => .table (entryValues entries) :: tableValues rest

end

end CloudGraph.Toml

import CloudGraph.Toml.Scalar
import CloudGraph.Toml.Table

/-!
# Reading TOML

A document is a list of sections: the entries before the first header, and those under each
header. `Value.ofText?` reads it to a table.
-/

namespace CloudGraph.Toml

def skipBlank (cs : List Char) : List Char :=
  cs.dropWhile isBlank

/-- What follows a comment, if there is one; none if it holds a control character. -/
def skipComment (cs : List Char) : Option (List Char) :=
  match cs with
  | '#' :: rest =>
    let rest := rest.dropWhile isPlainChar
    if rest.isEmpty || (takeBreak? rest).isSome then some rest else none
  | _ => some cs

/-- What follows the rest of a line, on which nothing but a comment may stand. -/
def lineEnd? (cs : List Char) : Option (List Char) := do
  let rest ← skipComment (skipBlank cs)
  if rest.isEmpty then some [] else takeBreak? rest

/-- Skip blanks, line breaks and comments inside an array. -/
def skipSpace : Nat → List Char → Option (List Char)
  | 0, cs => some cs
  | fuel + 1, cs =>
    let cs := skipBlank cs
    match takeBreak? cs with
    | some rest => skipSpace fuel rest
    | none =>
      match cs with
      | '#' :: _ => do skipSpace fuel (← skipComment cs)
      | _ => some cs

/-! ## Keys -/

def isBareKeyChar (c : Char) : Bool :=
  c.isAlphanum || c == '_' || c == '-'

/-- One part of a key, in quotes on one line or bare. -/
def keyPart? (cs : List Char) : Option (String × List Char) :=
  match cs with
  | '"' :: rest =>
    (basicFrom (rest.length + 1) rest).map fun (text, rest) => (String.ofList text, rest)
  | '\'' :: rest => (literalFrom rest).map fun (text, rest) => (String.ofList text, rest)
  | _ =>
    let (word, rest) := cs.span isBareKeyChar
    if word.isEmpty then none else some (String.ofList word, rest)

/-- The parts of a key with points between them, and what follows. -/
def keyFrom : Nat → List Char → Option (List String × List Char)
  | 0, _ => none
  | fuel + 1, cs => do
    let (part, rest) ← keyPart? (skipBlank cs)
    match skipBlank rest with
    | '.' :: rest =>
      let (parts, rest) ← keyFrom fuel rest
      return (part :: parts, rest)
    | rest => return ([part], rest)

/-- How many parts a key may have, and how deep values may nest. -/
def maxDepth : Nat := 79

/-- A key as the path to its table and its last part. -/
def key? (cs : List Char) : Option ((List String × String) × List Char) := do
  let (parts, rest) ← keyFrom (cs.length + 1) cs
  let last ← parts.getLast?
  if parts.length ≤ maxDepth then some ((parts.dropLast, last), rest) else none

/-! ## Values -/

mutual

/-- A value and what follows it. The fuel bounds the steps and `depth` the nesting. -/
def valueFrom : Nat → Nat → List Char → Option (Value × List Char)
  | 0, _, _ => none
  | fuel + 1, depth, cs =>
    match cs with
    | '[' :: rest =>
      match depth with
      | 0 => none
      | depth + 1 => (itemsFrom fuel depth rest).map fun (items, rest) => (.array items, rest)
    | '{' :: rest =>
      match depth with
      | 0 => none
      | depth + 1 =>
        match skipBlank rest with
        | '}' :: rest => some (.table [], rest)
        | rest =>
          (pairsFrom fuel depth [] rest).map fun (es, rest) => (.table (entryValues es), rest)
    | '"' :: _ | '\'' :: _ => (textFrom? cs).map fun (s, rest) => (.text s, rest)
    | _ =>
      let (word, rest) := wordFrom cs
      (wordValue? word).map (·, rest)

/-- The items of an array and what follows its closing bracket. -/
def itemsFrom : Nat → Nat → List Char → Option (List Value × List Char)
  | 0, _, _ => none
  | fuel + 1, depth, cs => do
    match ← skipSpace cs.length cs with
    | ']' :: rest => return ([], rest)
    | cs =>
      let (v, rest) ← valueFrom fuel depth cs
      match ← skipSpace rest.length rest with
      | ',' :: rest =>
        let (items, rest) ← itemsFrom fuel depth rest
        return (v :: items, rest)
      | ']' :: rest => return ([v], rest)
      | _ => none

/-- One or more entries of a table in braces, and what follows the closing brace. -/
def pairsFrom : Nat → Nat → Entries → List Char → Option (Entries × List Char)
  | 0, _, _, _ => none
  | fuel + 1, depth, es, cs => do
    let ((path, key), rest) ← key? cs
    match rest with
    | '=' :: rest =>
      let (v, rest) ← valueFrom fuel depth (skipBlank rest)
      let es ← es.addValue path key v
      match skipBlank rest with
      | ',' :: rest => pairsFrom fuel depth es rest
      | '}' :: rest => return (es, rest)
      | _ => none
    | _ => none

end

/-! ## Documents -/

/-- An entry of a section. -/
structure Assignment where
  path : List String
  key : String
  value : Value

def Assignment.addTo (es : Entries) (a : Assignment) : Option Entries :=
  es.addValue a.path a.key a.value

inductive Line where
  | entry (assignment : Assignment)
  | header (path : List String) (key : String)
  | doubledHeader (path : List String) (key : String)

/-- A header up to its closing brackets, with the rest of its line. -/
def headerFrom (closing : List Char) (make : List String → String → Line) (cs : List Char) :
    Option (Line × List Char) := do
  let ((path, key), rest) ← key? cs
  if closing.isPrefixOf rest then
    let rest ← lineEnd? (rest.drop closing.length)
    return (make path key, rest)
  else none

/-- A line that is not empty, and what follows it. -/
def lineFrom (cs : List Char) : Option (Line × List Char) :=
  match cs with
  | '[' :: '[' :: rest => headerFrom [']', ']'] .doubledHeader rest
  | '[' :: rest => headerFrom [']'] .header rest
  | _ => do
    let ((path, key), rest) ← key? cs
    match rest with
    | '=' :: rest =>
      let cs := skipBlank rest
      let (v, rest) ← valueFrom (cs.length + 1) maxDepth cs
      let rest ← lineEnd? rest
      return (.entry ⟨path, key, v⟩, rest)
    | _ => none

/-- All lines of a text that are not empty. -/
def linesFrom : Nat → List Char → Option (List Line)
  | 0, _ => none
  | fuel + 1, cs => do
    match ← skipSpace cs.length cs with
    | [] => return []
    | cs =>
      let (line, rest) ← lineFrom cs
      return line :: (← linesFrom fuel rest)

/-- The entries of the section that comes first, and the lines from the next header on. -/
def takeEntries : List Line → List Assignment × List Line
  | .entry a :: rest =>
    let (entries, rest) := takeEntries rest
    (a :: entries, rest)
  | rest => ([], rest)

/-- Add the sections of a document, each under its header. -/
def addSections : Nat → Entries → List Line → Option Entries
  | 0, _, _ => none
  | fuel + 1, es, lines =>
    match lines with
    | [] => some es
    | .entry a :: rest => do addSections fuel (← a.addTo es) rest
    | .header path key :: rest => do
      let (entries, rest) := takeEntries rest
      addSections fuel (← es.define path key fun old => entries.foldlM Assignment.addTo old) rest
    | .doubledHeader path key :: rest => do
      let (entries, rest) := takeEntries rest
      addSections fuel (← es.append path key fun old => entries.foldlM Assignment.addTo old) rest

/-- The table of a document; a byte order mark at its start is skipped. -/
def Value.ofText? (s : String) : Option Value := do
  let cs := match s.toList with
    | '\uFEFF' :: rest => rest
    | cs => cs
  let lines ← linesFrom (cs.length + 1) cs
  let es ← addSections (lines.length + 1) [] lines
  return .table (entryValues es)

end CloudGraph.Toml

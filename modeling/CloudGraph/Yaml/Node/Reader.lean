import CloudGraph.Yaml.Node
import CloudGraph.Yaml.Token

/-!
# Reading YAML nodes

`Node.ofText?` reads a text that holds at most one document. An anchor gives the node that it
stands before a number: how many other names there are already. Where a name is used again, two
names may so come to share a number, and then the later node counts for both.
-/

namespace CloudGraph.Yaml

/-- A numbered node. The node is missing as long as it is being read. -/
structure Anchored where
  number : Nat
  serial : Nat
  node? : Option Node

/-- What is left to read, the number of each name, the numbered nodes (the latest first) and the
tag handles. -/
structure Reading where
  tokens : List Token
  names : List (String × Nat) := []
  anchored : List Anchored := []
  handles : List (String × List UInt8) :=
    [("!", "!".toUTF8.toList), ("!!", "tag:yaml.org,2002:".toUTF8.toList)]

namespace Reading

def next? (r : Reading) : Option Token :=
  r.tokens.head?

def skip (r : Reading) : Reading :=
  { r with tokens := r.tokens.tail }

/-- Name the node that comes next. -/
def reserve (r : Reading) : Option String → Nat × Reading
  | none => (r.anchored.length, r)
  | some name =>
    let serial := r.anchored.length
    let number := r.names.length
    (serial, { r with
      names := (name, number) :: r.names.filter (·.1 != name)
      anchored := ⟨number, serial, none⟩ :: r.anchored })

/-- Give the node that a name was reserved for. -/
def settle (r : Reading) (name : Option String) (serial : Nat) (n : Node) : Reading :=
  if name.isNone then r
  else
    { r with
      anchored := r.anchored.map fun a =>
        if a.serial == serial then { a with node? := some n } else a }

/-- The nodes under their numbers; of two with one number the latest stands first. -/
def named (r : Reading) : List (Nat × Node) :=
  r.anchored.filterMap fun a => a.node?.map fun n => (a.number, n)

/-- The bytes of a tag whose handle the document has. -/
def resolve? (r : Reading) (handle : String) (suffix : List UInt8) : Option (List UInt8) :=
  if handle.isEmpty then some suffix else (r.handles.lookup handle).map (· ++ suffix)

/-- What a tag says. A tag of the document's own that is not UTF-8 counts as none, and any other
such tag as one that nothing is known of. -/
def tagOfBytes? (bytes : List UInt8) : Option String :=
  match String.fromUTF8? ⟨bytes.toArray⟩ with
  | some text => some text
  | none => if bytes.head? == some '!'.toUInt8 then none else some ""

/-- The anchor and the tag before a node, each at most once and in either order. -/
def properties (r : Reading) : Option (Option String × Option (List UInt8) × Reading) :=
  match r.tokens with
  | .anchor a :: .tag h s :: rest => do
    return (some a, some (← r.resolve? h s), { r with tokens := rest })
  | .tag h s :: .anchor a :: rest => do
    return (some a, some (← r.resolve? h s), { r with tokens := rest })
  | .anchor a :: rest => some (some a, none, { r with tokens := rest })
  | .tag h s :: rest => do return (none, some (← r.resolve? h s), { r with tokens := rest })
  | _ => some (none, none, r)

/-- Whether the next token is one of these, or there is none. -/
def nextIn (r : Reading) (ts : List Token) : Bool :=
  match r.next? with
  | some t => ts.contains t
  | none => false

mutual

/-- A node. `block` allows collections in block form, and `indentless` a sequence whose dashes
stand at the column of the mapping around it. -/
def node : Nat → Bool → Bool → Reading → Option (Node × Reading)
  | 0, _, _, _ => none
  | fuel + 1, block, indentless, r =>
    match r.next? with
    | some (.alias name) =>
      (r.names.lookup name).map fun number => (.alias number, r.skip)
    | _ => do
      let (anchor, bytes, r) ← r.properties
      let tag := bytes.bind tagOfBytes?
      let marked := anchor.isSome || bytes.isSome
      let (serial, r) := r.reserve anchor
      let done (n : Node) (r : Reading) : Node × Reading := (n, r.settle anchor serial n)
      match r.next? with
      | some (.scalar text plain) =>
        return done (.scalar tag plain text) r.skip
      | some .flowSequenceStart =>
        let (items, r) ← flowItems fuel true r.skip
        return done (.sequence tag items) r
      | some .flowMappingStart =>
        let (entries, r) ← flowEntries fuel true r.skip
        return done (.mapping tag entries) r
      | some .blockEntry =>
        if indentless then
          let (items, r) ← dashes fuel r
          return done (.sequence tag items) r
        else if marked then return done (.scalar tag true "") r
        else none
      | some .blockSequenceStart =>
        if block then
          let (items, r) ← blockItems fuel r.skip
          return done (.sequence tag items) r
        else if marked then return done (.scalar tag true "") r
        else none
      | some .blockMappingStart =>
        if block then
          let (entries, r) ← blockEntries fuel r.skip
          return done (.mapping tag entries) r
        else if marked then return done (.scalar tag true "") r
        else none
      | _ =>
        if marked then return done (.scalar tag true "") r else none

/-- A node, or the empty one if one of `ends` comes next. -/
def nodeUnless : Nat → Bool → Bool → List Token → Reading → Option (Node × Reading)
  | 0, _, _, _, _ => none
  | fuel + 1, block, indentless, ends, r =>
    if r.nextIn ends then some (.empty, r) else node fuel block indentless r

/-- The items of a block sequence up to its end. -/
def blockItems : Nat → Reading → Option (List Node × Reading)
  | 0, _ => none
  | fuel + 1, r => do
    match r.next? with
    | some .blockEntry =>
      let (n, r) ← nodeUnless fuel true false [.blockEntry, .blockEnd] r.skip
      let (rest, r) ← blockItems fuel r
      return (n :: rest, r)
    | some .blockEnd => return ([], r.skip)
    | _ => none

/-- The items of a sequence at the column of the mapping around it. -/
def dashes : Nat → Reading → Option (List Node × Reading)
  | 0, _ => none
  | fuel + 1, r => do
    match r.next? with
    | some .blockEntry =>
      let (n, r) ← nodeUnless fuel true false [.blockEntry, .key, .value, .blockEnd] r.skip
      let (rest, r) ← dashes fuel r
      return (n :: rest, r)
    | _ => return ([], r)

/-- The entries of a block mapping up to its end. -/
def blockEntries : Nat → Reading → Option (List (Node × Node) × Reading)
  | 0, _ => none
  | fuel + 1, r => do
    match r.next? with
    | some .key =>
      let (k, r) ← nodeUnless fuel true true [.key, .value, .blockEnd] r.skip
      blockValue fuel k r
    | some .blockEnd => return ([], r.skip)
    | _ => none

/-- The value of an entry of a block mapping, and the entries behind it. -/
def blockValue : Nat → Node → Reading → Option (List (Node × Node) × Reading)
  | 0, _, _ => none
  | fuel + 1, k, r => do
    let (v, r) ←
      if r.next? == some .value then
        nodeUnless fuel true true [.key, .value, .blockEnd] r.skip
      else pure (.empty, r)
    let (rest, r) ← blockEntries fuel r
    return ((k, v) :: rest, r)

/-- The items of a flow sequence up to its bracket. A pair is an item of its own. -/
def flowItems : Nat → Bool → Reading → Option (List Node × Reading)
  | 0, _, _ => none
  | fuel + 1, first, r => do
    if r.next? == some .flowSequenceEnd then return ([], r.skip)
    else
      let r ← if first then pure r else if r.next? == some .flowEntry then pure r.skip else none
      match r.next? with
      | some .flowSequenceEnd => return ([], r.skip)
      | some .key =>
        let r := r.skip
        let (k, r) ←
          if r.nextIn [.value, .flowEntry, .flowSequenceEnd] then pure (.empty, r.skip)
          else node fuel false false r
        let (v, r) ←
          if r.next? == some .value then
            nodeUnless fuel false false [.flowEntry, .flowSequenceEnd] r.skip
          else pure (.empty, r)
        let (rest, r) ← flowItems fuel false r
        return (.mapping none [(k, v)] :: rest, r)
      | _ =>
        let (n, r) ← node fuel false false r
        let (rest, r) ← flowItems fuel false r
        return (n :: rest, r)

/-- The entries of a flow mapping up to its brace. -/
def flowEntries : Nat → Bool → Reading → Option (List (Node × Node) × Reading)
  | 0, _, _ => none
  | fuel + 1, first, r => do
    if r.next? == some .flowMappingEnd then return ([], r.skip)
    else
      let r ← if first then pure r else if r.next? == some .flowEntry then pure r.skip else none
      match r.next? with
      | some .flowMappingEnd => return ([], r.skip)
      | some .key =>
        let (k, r) ←
          nodeUnless fuel false false [.value, .flowEntry, .flowMappingEnd] r.skip
        let (v, r) ←
          if r.next? == some .value then
            nodeUnless fuel false false [.flowEntry, .flowMappingEnd] r.skip
          else pure (.empty, r)
        let (rest, r) ← flowEntries fuel false r
        return ((k, v) :: rest, r)
      | _ =>
        let (k, r) ← node fuel false false r
        let (rest, r) ← flowEntries fuel false r
        return ((k, .empty) :: rest, r)

end

/-- The directives at the head of a document. -/
def directives : Nat → Bool → List String → Reading → Option Reading
  | 0, _, _, _ => none
  | fuel + 1, versioned, named, r =>
    match r.next? with
    | some (.versionDirective major minor) =>
      if versioned || major != 1 || !(minor == 1 || minor == 2) then none
      else directives fuel true named r.skip
    | some (.tagDirective handle value) =>
      if named.contains handle then none
      else
        directives fuel versioned (handle :: named)
          { r.skip with handles := (handle, value) :: r.handles }
    | _ => some r

def documentEdges : List Token := [.documentStart, .documentEnd]

def isDirective : Token → Bool
  | .versionDirective .. | .tagDirective .. => true
  | _ => false

/-- The only document: nothing but end markers may follow it. -/
def document (r : Reading) : Option (Option Node) := do
  let fuel := 4 * r.tokens.length + 8
  match r.next? with
  | none => return none
  | some t =>
    let (n, r) ←
      if isDirective t || t == .documentStart then do
        let r ← directives (r.tokens.length + 1) false [] r
        if r.next? == some .documentStart then
          let r := r.skip
          if r.next?.isNone || r.nextIn documentEdges || (r.next?.map isDirective).getD false then
            pure (Node.empty, r)
          else node fuel true false r
        else none
      else node fuel true false r
    if (r.tokens.dropWhile (· == .documentEnd)).isEmpty then return some (n.fillFrom r.named)
    else none

end Reading

/-- The document of a text, if it has one; a malformed text gives nothing. -/
def Node.ofText? (s : String) : Option (Option Node) := do
  Reading.document { tokens := ← Token.ofText? s }

end CloudGraph.Yaml

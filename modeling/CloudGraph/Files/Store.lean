import CloudGraph.Files.Path
import CloudGraph.Text.Blank

/-!
# A store of files

A tree of folders and texts, with a working folder for the paths that start there.

`FileStore.locate` walks a path from folder to folder; what it finds at the end may be missing.
Each step of a walk starts in a folder, and a name that is too long stops it.
-/

namespace CloudGraph

inductive FileNode where
  | file (text : String)
  | folder (entries : List (String × FileNode))
deriving Inhabited

/-- The names that lead from the root to a place. -/
abbrev Location := List String

namespace FileNode

def isFolder : FileNode → Bool
  | .folder _ => true
  | .file _ => false

/-- The entry of a folder that has a name. -/
def child? (name : String) : FileNode → Option FileNode
  | .folder entries => entries.lookup name
  | .file _ => none

def entries : FileNode → List (String × FileNode)
  | .folder entries => entries
  | .file _ => []

/-- Put an entry into a folder, in place of the one with its name. -/
def setChild (name : String) (n : FileNode) : List (String × FileNode) → List (String × FileNode)
  | [] => [(name, n)]
  | e :: rest => if e.1 = name then (name, n) :: rest else e :: setChild name n rest

/-- Put something at a place under a folder; folders on the way are made. -/
def put : FileNode → Location → FileNode → FileNode
  | _, [], new => new
  | n, name :: rest, new =>
    .folder (setChild name (put ((n.child? name).getD (.folder [])) rest new) n.entries)

def get? : FileNode → Location → Option FileNode
  | n, [] => some n
  | n, name :: rest => (n.child? name).bind (get? · rest)

def content? : FileNode → Option String
  | .file text => some text
  | .folder _ => none

mutual

/-- The texts under a place, each with the names from there, the last first. -/
def texts (above : List String) : FileNode → List (List String × String)
  | .file text => [(above, text)]
  | .folder entries => entriesTexts above entries

def entriesTexts (above : List String) : List (String × FileNode) → List (List String × String)
  | [] => []
  | (name, n) :: rest => n.texts (name :: above) ++ entriesTexts above rest

end

end FileNode

structure FileStore where
  working : Location := []
  root : FileNode := .folder []

/-- A place on a walk: its names from the root, the last first, and what is there and at the
places above it. -/
structure Place where
  names : List String
  nodes : List (Option FileNode)

namespace Place

def node? (p : Place) : Option FileNode :=
  p.nodes.head?.join

def location (p : Place) : Location :=
  p.names.reverse

/-- The place above; above the root is the root. -/
def above (p : Place) : Place :=
  if p.names.isEmpty then p else ⟨p.names.tail, p.nodes.tail⟩

def enter (p : Place) (name : String) : Place :=
  ⟨name :: p.names, (p.node?.bind (·.child? name)) :: p.nodes⟩

def isFolder (p : Place) : Bool :=
  p.node?.any FileNode.isFolder

/-- Walk on along some names. -/
def walk (p : Place) : List String → Except FileFault Place
  | [] => .ok p
  | name :: rest =>
    match p.node? with
    | none => .error .missing
    | some (.file _) => .error .notFolder
    | some (.folder _) =>
      if name = "" || name = "." then p.walk rest
      else if name = ".." then p.above.walk rest
      else if Path.maxNameBytes < name.utf8ByteSize then .error .tooLong
      else (p.enter name).walk rest

end Place

namespace FileStore

/-! ## Paths -/

/-- Where a path starts. -/
def origin (s : FileStore) (path : String) : Place :=
  let root : Place := ⟨[], [some s.root]⟩
  if Path.isAbsolute path then root else s.working.foldl Place.enter root

/-- Walk the parts of a path. -/
def locateParts (s : FileStore) (path : String) (parts : List String) : Except FileFault Place :=
  match Path.fault? path with
  | some fault => .error fault
  | none => (s.origin path).walk parts

def locate (s : FileStore) (path : String) : Except FileFault Place :=
  s.locateParts path (Path.parts path)

def node? (s : FileStore) (path : String) : Option FileNode :=
  match s.locate path with
  | .ok place => place.node?
  | .error _ => none

def isThere (s : FileStore) (path : String) : Bool :=
  (s.node? path).isSome

/-- Whether a path leads to a folder. -/
def leadsToFolder (s : FileStore) (path : String) : Bool :=
  (s.node? path).any FileNode.isFolder

/-! ## Reading and writing -/

def read (s : FileStore) (path : String) : Except FileFault String := do
  match (← s.locate path).node? with
  | some (.file text) => return text
  | some (.folder _) => throw .isFolder
  | none => throw .missing

/-- Put something at a place. -/
def put (s : FileStore) (place : Location) (n : FileNode) : FileStore :=
  { s with root := s.root.put place n }

def write (s : FileStore) (path text : String) : Except FileFault FileStore := do
  let place ← s.locate path
  if place.isFolder then throw .isFolder else return s.put place.location (.file text)

/-- Make one folder, in one that exists. Slashes at the end of its path do not count. -/
def makeFolder (s : FileStore) (path : String) : Except FileFault FileStore := do
  let place ← s.locateParts path (Text.dropEndWhile (· = "") (Path.parts path))
  if place.node?.isSome then throw .exists else return s.put place.location (.folder [])

/-! ## Changes -/

/-- A store with an empty working folder. -/
def ofWorking (working : Location) : FileStore :=
  ({ working } : FileStore).put working (.folder [])

/-- Put texts at paths, and folders on the way. -/
def putAll (s : FileStore) (files : List (String × String)) : FileStore :=
  files.foldl (fun s f =>
    let start := if Path.isAbsolute f.1 then [] else s.working
    s.put (start ++ Path.names f.1) (.file f.2)) s

/-- The files under the working folder that are new or have another text than before. -/
def changesSince (s before : FileStore) : List (String × String) :=
  let texts := ((s.root.get? s.working).map (FileNode.texts [])).getD []
  texts.filterMap fun f =>
    let place := f.1.reverse
    if (before.root.get? (s.working ++ place)).bind FileNode.content? = some f.2 then none
    else some ("/".intercalate place, f.2)

end FileStore

end CloudGraph

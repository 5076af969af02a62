import CloudGraph.Advisory.Service
import CloudGraph.Files.Fault
import CloudGraph.Files.Path

/-!
# Hosts

A host does for a run what a pure function cannot: it reads and writes files, sends requests and
prints. Commands are written for any host, so that they can be run on files in memory.
-/

namespace CloudGraph

class Host (m : Type → Type) where
  /-- Whether something is at a path. -/
  isThere : String → m Bool
  read : String → m (Except FileFault String)
  isFolder : String → m Bool
  /-- Make one folder, in one that exists. -/
  makeFolder : String → m (Except FileFault Unit)
  write : String → String → m (Except FileFault Unit)
  send : Web.Request → m Web.Connection
  print : String → m Unit
  /-- Print where messages go. -/
  printMessage : String → m Unit

/-- A computation that may fail runs on the same host. -/
instance {ε : Type} {m : Type → Type} [Monad m] [Host m] : Host (ExceptT ε m) where
  isThere path := ExceptT.lift (Host.isThere path)
  read path := ExceptT.lift (Host.read path)
  isFolder path := ExceptT.lift (Host.isFolder path)
  makeFolder path := ExceptT.lift (Host.makeFolder path)
  write path text := ExceptT.lift (Host.write path text)
  send request := ExceptT.lift (Host.send request)
  print text := ExceptT.lift (Host.print text)
  printMessage text := ExceptT.lift (Host.printMessage text)

namespace Host

variable {m : Type → Type} [Monad m] [Host m]

/-- A fault in making a folder does not count if the folder is there. -/
def orThere (path : String) (fault : FileFault) : m (Except FileFault Unit) := do
  return if ← isFolder path then .ok () else .error fault

/-- Make a folder, and if need be those above it first. -/
def makeFolderWith (path : String) (makeAbove : m (Except FileFault Unit)) :
    m (Except FileFault Unit) := do
  match ← makeFolder path with
  | .ok _ => return .ok ()
  | .error .missing =>
    match ← makeAbove with
    | .error fault => return .error fault
    | .ok _ =>
      match ← makeFolder path with
      | .ok _ => return .ok ()
      | .error fault => orThere path fault
  | .error fault => orThere path fault

/-- Make the folder that some names lead to, the last name first. -/
def makeFoldersTo (absolute : Bool) : List String → m (Except FileFault Unit)
  | [] => return .ok ()
  | name :: above =>
    makeFolderWith (Path.ofReversed absolute (name :: above)) (makeFoldersTo absolute above)

/-- Make a folder and those on the way to it, where they do not exist. -/
def makeFolders (path : String) : m (Except FileFault Unit) :=
  if path.isEmpty then return .ok ()
  else
    makeFolderWith path (makeFoldersTo (Path.isAbsolute path) ((Path.names path).reverse.drop 1))

/-- Write texts, each at a path, and stop at the first fault. -/
def writeAll : List (String × String) → m (Except FileFault Unit)
  | [] => return .ok ()
  | (path, text) :: rest => do
    match ← write path text with
    | .ok _ => writeAll rest
    | .error fault => return .error fault

end Host

end CloudGraph

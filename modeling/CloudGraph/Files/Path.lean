import CloudGraph.Files.Fault

/-!
# Paths

A path is a text of names with slashes between them. It starts at the root of all folders if it
starts with a slash, and at the working folder otherwise. A name has at most 255 bytes and a path
at most 4095.
-/

namespace CloudGraph.Path

def maxBytes : Nat := 4095

def maxNameBytes : Nat := 255

/-- Why a path leads nowhere, whatever there is. -/
def fault? (path : String) : Option FileFault :=
  if path.contains '\x00' then some .unnameable
  else if path.isEmpty then some .missing
  else if maxBytes < path.utf8ByteSize then some .tooLong
  else none

def isAbsolute (path : String) : Bool :=
  "/".isPrefixOf path

/-- What stands between the slashes, also where that is nothing. -/
def parts (path : String) : List String :=
  path.splitOn "/"

/-- The names on the way, without those that stay where they are. -/
def names (path : String) : List String :=
  (parts path).filter fun name => name ≠ "" && name ≠ "."

/-- The path of some names, the last first. -/
def ofReversed (absolute : Bool) (names : List String) : String :=
  (if absolute then "/" else "") ++ "/".intercalate names.reverse

/-- The path of a name in a folder. -/
def join (folder name : String) : String :=
  if folder.isEmpty || "/".toList.isSuffixOf folder.toList then folder ++ name
  else folder ++ "/" ++ name

/-- What stands behind the last point of a name, if something stands before it. -/
def extensionOfName? (name : String) : Option String :=
  let (reversed, rest) := name.toList.reverse.span (· ≠ '.')
  match rest with
  | _ :: _ :: _ => if name = ".." then none else some (String.ofList reversed.reverse)
  | _ => none

/-- The extension of the last name of a path. -/
def extension? (path : String) : Option String :=
  (names path).getLast?.bind extensionOfName?

end CloudGraph.Path

/-!
# Faults of files

Why a file or a folder cannot be used, in the words of the system and with its number.
-/

namespace CloudGraph

inductive FileFault where
  | missing
  | exists
  | notFolder
  | isFolder
  | tooLong
  /-- A name with the character of code zero in it. -/
  | unnameable
  /-- Another reason, in words. -/
  | other (reason : String)
deriving DecidableEq, Repr

def FileFault.message : FileFault → String
  | .missing => "No such file or directory (os error 2)"
  | .exists => "File exists (os error 17)"
  | .notFolder => "Not a directory (os error 20)"
  | .isFolder => "Is a directory (os error 21)"
  | .tooLong => "File name too long (os error 36)"
  | .unnameable => "file name contained an unexpected NUL byte"
  | .other reason => reason

end CloudGraph

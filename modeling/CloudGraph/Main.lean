import CloudGraph.Command.Program
import Std.Time.DateTime.Timestamp

/-!
# The executable

The host that works on the machine itself. It has no network: every request counts as refused.
-/

namespace CloudGraph

/-- The fault behind a number of the system, which some calls give below zero. -/
def FileFault.ofNumber (given : UInt32) (words : String) : FileFault :=
  let number := if given < 0x80000000 then given else 0 - given
  match number with
  | 2 => .missing
  | 17 => .exists
  | 20 => .notFolder
  | 21 => .isFolder
  | 36 => .tooLong
  | _ => .other (words ++ " (os error " ++ toString number ++ ")")

def FileFault.ofIO : IO.Error → FileFault
  | .alreadyExists _ number words | .noFileOrDirectory _ number words
  | .inappropriateType _ number words | .permissionDenied _ number words
  | .invalidArgument _ number words | .resourceExhausted _ number words
  | .noSuchThing _ number words | .interrupted _ number words => .ofNumber number words
  | .otherError number words | .resourceBusy number words | .resourceVanished number words
  | .unsupportedOperation number words | .hardwareFault number words
  | .unsatisfiedConstraints number words | .illegalOperation number words
  | .protocolError number words | .timeExpired number words => .ofNumber number words
  | .unexpectedEof => .other "unexpected end of file"
  | .userError _ => .other "stream did not contain valid UTF-8"

/-- Run an action on what is at a path and keep its fault. -/
def guarded {α : Type} (path : String) (action : IO α) : IO (Except FileFault α) := do
  match Path.fault? path with
  | some fault => return .error fault
  | none =>
    match ← action.toBaseIO with
    | .ok a => return .ok a
    | .error e => return .error (.ofIO e)

/-- Open what is at a path and read a little of it. -/
def touch (path : String) : IO (Except FileFault Unit) :=
  guarded path do
    let handle ← IO.FS.Handle.mk path .read
    let _ ← handle.read 1

instance : Host IO where
  isThere path := do
    match ← touch path with
    | .error .missing | .error .notFolder | .error .tooLong | .error .unnameable => return false
    | _ => return true
  isFolder path := do
    match ← touch path with
    | .error .isFolder => return true
    | _ => return false
  read path := guarded path (IO.FS.readFile path)
  makeFolder path := guarded path (IO.FS.createDir path)
  write path text := guarded path (IO.FS.writeFile path text)
  send _ := return .refused
  print text := do
    let out ← IO.getStdout
    out.putStr text
    out.flush
  printMessage text := do
    let err ← IO.getStderr
    err.putStr text
    err.flush

/-- The point in time that the system's clock shows. -/
def currentTime : IO Timestamp := do
  let nanos := (← Std.Time.Timestamp.now).toNanosecondsSinceUnixEpoch.val
  return { seconds := Int.fdiv nanos 1000000000, nanos := (Int.fmod nanos 1000000000).toNat }

def currentEnvironment : IO Environment := do
  let names := Environment.variableNames
    ++ [Settings.endpointVariable, Settings.modelVariable, Settings.logLevelVariable]
  let values ← names.filterMapM fun name => do
    return (← IO.getEnv name).map (name, ·)
  return {
    value? := fun name => values.lookup name
    now := ← currentTime
    terminal := ← (← IO.getStdout).isTty }

end CloudGraph

def main (args : List String) : IO UInt32 := do
  CloudGraph.Program.run (← CloudGraph.currentEnvironment) args

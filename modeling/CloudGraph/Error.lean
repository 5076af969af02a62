import CloudGraph.Advisory.Chat
import CloudGraph.Generate.Artifact
import CloudGraph.Graph.Reader
import CloudGraph.Rule.Report
import CloudGraph.Settings.Basic

/-!
# Errors

Whatever can go wrong, as one type for callers that use several parts. `Error.message` puts the
part at fault in front of its own message; `Error.account` adds the messages of the causes.
-/

namespace CloudGraph

inductive Error where
  | graph (cause : GraphError)
  | target (cause : UnknownTarget)
  | generation (cause : GenerationFailure)
  | advisory (cause : ChatError)
  | settings (cause : SettingsError)
  | framework (cause : UnknownFramework)
  | file (cause : FileFault)
  /-- A value given to an option that cannot be used. -/
  | option (name value reason : String)

namespace Error

def message : Error → String
  | .graph cause => "Graph error: " ++ cause.message
  | .target cause => "Code generation error: " ++ cause.message
  | .generation cause => cause.message
  | .advisory cause => "Advisory error: " ++ cause.message
  | .settings cause => "Configuration error: " ++ cause.message
  | .framework cause => cause.message
  | .file cause => "IO error: " ++ cause.message
  | .option name value reason =>
    "Invalid input: --" ++ name ++ " " ++ value ++ ": " ++ reason

/-- Whether the user can mend it. -/
def isUserError : Error → Bool
  | .graph _ | .framework _ | .option _ _ _ | .settings _ => true
  | .target _ | .generation _ | .advisory _ | .file _ => false

/-- The messages of what an error comes from, the nearest first. -/
def causes : Error → List String
  | .graph cause =>
    cause.message :: match cause with
      | .unreadable fault => [fault.message]
      | _ => []
  | .target cause => [cause.message]
  | .generation cause => [cause.cause.message]
  | .advisory cause => [cause.message]
  | .settings cause =>
    cause.message :: match cause with
      | .inaccessible fault => [fault.message]
      | _ => []
  | .file cause => [cause.message]
  | .framework _ | .option _ _ _ => []

/-- The message with those of the causes behind it. -/
def account (e : Error) : String :=
  ": ".intercalate (e.message :: e.causes)

end Error

end CloudGraph

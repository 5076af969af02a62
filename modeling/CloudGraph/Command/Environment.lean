import CloudGraph.Command.Basic
import CloudGraph.Timestamp

/-!
# The environment of a run

The variables that a run can look at, the time, and what follows from them: whether text is
coloured, and where settings are kept.
-/

namespace CloudGraph

structure Environment where
  /-- The value of a variable, if it is set. -/
  value? : String → Option String
  now : Timestamp
  /-- Whether the output goes to a terminal. -/
  terminal : Bool := false

namespace Environment

def logVariable : String := "RUST_LOG"

/-- The variables that a run looks at beside those of the settings. -/
def variableNames : List String :=
  ["NO_COLOR", "FORCE_COLOR", "CLICOLOR", "CLICOLOR_FORCE", "TERM", "XDG_CONFIG_HOME", "HOME",
    logVariable]

def isSet (env : Environment) (name : String) : Bool :=
  (env.value? name).isSome

/-- Whether colours are wanted where the command does not say it. -/
def wantsColor (env : Environment) : Bool :=
  !env.isSet "NO_COLOR"
    && (env.isSet "FORCE_COLOR" || (env.value? "TERM").any fun t => t ≠ "" && t ≠ "dumb")

/-- Whether messages are coloured before the command's own mode is settled. -/
def colorsEarly (env : Environment) : Bool :=
  if (env.value? "CLICOLOR_FORCE").any (· ≠ "0") then true
  else if env.isSet "NO_COLOR" then false
  else env.terminal && (env.value? "CLICOLOR").all (· ≠ "0")

/-- Where settings are kept if no path is given. -/
def settingsPath (env : Environment) : String :=
  let folder := match (env.value? "XDG_CONFIG_HOME").filter (·.startsWith "/") with
    | some folder => folder
    | none =>
      match (env.value? "HOME").filter (· ≠ "") with
      | some home => home ++ "/.config"
      | none => "."
  folder ++ "/infragraph/config.toml"

end Environment

def ColorMode.isColored (mode : ColorMode) (env : Environment) : Bool :=
  match mode with
  | .always => true
  | .never => false
  | .auto => env.wantsColor

end CloudGraph

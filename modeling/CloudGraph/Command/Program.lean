import CloudGraph.Command.Arguments
import CloudGraph.Command.Run

/-!
# The program

`Program.run` takes the words behind the program's name and gives the exit status: 0 for success,
1 for a command that found failures, 2 for an error. An error is the last line among the
messages; a bad log directive is a warning.
-/

namespace CloudGraph

def CommandName.usage : CommandName → String
  | .scan => "scan [-f FRAMEWORK] GRAPH"
  | .analyze => "analyze [--advisory] [--min-severity SEVERITY] GRAPH"
  | .test => "test [--cost-ceiling AMOUNT] GRAPH"
  | .generate => "generate [-t TARGET] [-o FOLDER] GRAPH"
  | .catalog => "catalog [--provider PROVIDER]"
  | .rules => "rules [--framework FRAMEWORK]"

namespace UsageError

def message : UsageError → String
  | .helpAsked | .nothingGiven => "a command is needed"
  | .versionAsked => "the version was asked for"
  | .missingCommand => "a command is needed"
  | .unknownCommand word => "unknown command '" ++ word ++ "'"
  | .unknownArgument word => "unexpected argument '" ++ word ++ "'"
  | .missingGraph command => "'" ++ command.name ++ "' needs the path of a graph"
  | .missingValue option => "'--" ++ option.name ++ "' needs a value"
  | .invalidValue name value => "invalid value '" ++ value ++ "' for '" ++ name ++ "'"
  | .malformedValue option value => "invalid value '" ++ value ++ "' for '" ++ option.name ++ "'"
  | .needlessValue option => "'--" ++ option.name ++ "' takes no value"
  | .repeatedOption option => "'--" ++ option.name ++ "' is given twice"

end UsageError

namespace Program

def name : String := "infragraph"

def version : String := "0.1.0"

/-- The commands and the common options. -/
def help : String :=
  "Usage: " ++ name ++ " [OPTIONS] COMMAND\n\nCommands:\n"
    ++ String.join (CommandName.all.map fun c => "  " ++ c.usage ++ "\n")
    ++ "\nOptions:\n  -c, --config PATH\n  --log-level LEVEL\n  --format text|json|yaml\n"
    ++ "  --color always|never|auto\n  -q, --quiet\n  -h, --help\n  -V, --version\n"

variable {m : Type → Type} [Monad m] [Host m]

/-- Print the last line of a run that failed. -/
def printError (colored : Bool) (e : Error) : m Unit :=
  Host.printMessage <|
    { bold := true, colour := some .red : TextStyle }.paint colored "error:" ++ " " ++ e.account
      ++ "\n"

/-- Answer words that make no invocation. -/
def printUsage : UsageError → m UInt32
  | .helpAsked => do
    Host.print help
    return 0
  | .versionAsked => do
    Host.print (name ++ " " ++ version ++ "\n")
    return 0
  | e => do
    Host.printMessage ("error: " ++ e.message ++ "\n\n" ++ help)
    return 2

def runCommand (env : Environment) (setup : Setup) (command : Command) : m UInt32 := do
  match setup.checkLogging env with
  | .ok _ => pure ()
  | .error e =>
    Host.printMessage <|
      setup.display.paint Colour.yellow.style "warning:" ++ " " ++ e.message ++ "\n"
  match ← (setup.run env command).run with
  | .ok .success => return 0
  | .ok .failed => return 1
  | .error e => do
    printError setup.display.colored e
    return 2

def run (env : Environment) (words : List String) : m UInt32 := do
  match Invocation.ofArguments words with
  | .error e => printUsage e
  | .ok invocation =>
    match ← (Setup.load env invocation.options).run with
    | .ok setup => runCommand env setup invocation.command
    | .error e => do
      printError env.colorsEarly e
      return 2

end Program

end CloudGraph

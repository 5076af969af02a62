import CloudGraph.Command.Basic
import CloudGraph.Decimal.Reader

/-!
# Arguments

The words behind the program's name. Common options may stand before the name of a command or
behind it; where one stands in both places, the one behind counts.

A value follows its option as the next word, behind `=`, or directly behind a single letter.
Letters without values may stand together. Behind `--` no word is an option or a command.

An option waits for its value until the next option or the end, and the value is checked then.
So of two faults the one is reported that is found first, and `settle` says when a value is
looked at. A command's own words are read before the options in front of it are settled.
-/

namespace CloudGraph

inductive CommandName where
  | scan | analyze | test | generate | catalog | rules
deriving DecidableEq, Repr

namespace CommandName

def all : List CommandName := [.scan, .analyze, .test, .generate, .catalog, .rules]

def name : CommandName → String
  | .scan => "scan"
  | .analyze => "analyze"
  | .test => "test"
  | .generate => "generate"
  | .catalog => "catalog"
  | .rules => "rules"

def ofName? (name : String) : Option CommandName :=
  all.find? (·.name == name)

/-- Whether the command is about a graph, whose path is its only free word. -/
def takesGraph : CommandName → Bool
  | .scan | .analyze | .test | .generate => true
  | .catalog | .rules => false

end CommandName

inductive OptionName where
  | config | logLevel | format | color | quiet
  | framework | advisory | minSeverity | costCeiling | target | out | provider
  | help | version
deriving DecidableEq, Repr

namespace OptionName

def name : OptionName → String
  | .config => "config"
  | .logLevel => "log-level"
  | .format => "format"
  | .color => "color"
  | .quiet => "quiet"
  | .framework => "framework"
  | .advisory => "advisory"
  | .minSeverity => "min-severity"
  | .costCeiling => "cost-ceiling"
  | .target => "target"
  | .out => "out"
  | .provider => "provider"
  | .help => "help"
  | .version => "version"

def takesValue : OptionName → Bool
  | .quiet | .advisory | .help | .version => false
  | _ => true

/-- Options that every command takes. -/
def common : List OptionName := [.config, .logLevel, .format, .color, .quiet, .help]

end OptionName

/-- Whose words are read: those in front of a command, or its own. -/
inductive Level where
  | program
  | command (name : CommandName)
deriving DecidableEq, Repr

namespace Level

def options : Level → List OptionName
  | .program => .version :: OptionName.common
  | .command .scan => .framework :: OptionName.common
  | .command .analyze => .advisory :: .minSeverity :: OptionName.common
  | .command .test => .costCeiling :: OptionName.common
  | .command .generate => .target :: .out :: OptionName.common
  | .command .catalog => .provider :: OptionName.common
  | .command .rules => .framework :: OptionName.common

def long? (level : Level) (name : String) : Option OptionName :=
  level.options.find? (·.name == name)

/-- The option of a single letter. -/
def short? (level : Level) (letter : Char) : Option OptionName :=
  match level, letter with
  | _, 'c' => some .config
  | _, 'q' => some .quiet
  | _, 'h' => some .help
  | .program, 'V' => some .version
  | .command .scan, 'f' => some .framework
  | .command .generate, 't' => some .target
  | .command .generate, 'o' => some .out
  | _, _ => none

end Level

/-- Why words make no invocation. The first three ask for something else. -/
inductive UsageError where
  | helpAsked
  | versionAsked
  | nothingGiven
  | missingCommand
  | unknownCommand (word : String)
  | unknownArgument (word : String)
  | missingGraph (command : CommandName)
  | missingValue (option : OptionName)
  /-- A value out of those that an option allows. -/
  | invalidValue (name value : String)
  /-- A value of a form that an option does not read. -/
  | malformedValue (option : OptionName) (value : String)
  | needlessValue (option : OptionName)
  | repeatedOption (option : OptionName)
deriving DecidableEq, Repr

/-! ## Values -/

/-- The options and the graph that were given. -/
structure Given where
  config : Option String := none
  logLevel : Option LogLevel := none
  format : Option OutputFormat := none
  color : Option ColorMode := none
  quiet : Bool := false
  graph : Option String := none
  framework : Option String := none
  advisory : Bool := false
  minSeverity : Option String := none
  costCeiling : Option Float := none
  target : Option String := none
  out : Option String := none
  provider : Option String := none
deriving DecidableEq

namespace Given

/-- A path; the empty text is none. -/
def path (name value : String) : Except UsageError String :=
  if value.isEmpty then .error (.invalidValue name value) else .ok value

/-- What a value stands for, or the error that it is none of those allowed. -/
def choice {α : Type} (option : OptionName) (value : String) (read : String → Option α) :
    Except UsageError α :=
  match read value with
  | some a => .ok a
  | none => .error (.invalidValue option.name value)

/-- Set an option, which may not be set before. -/
def once {α : Type} (option : OptionName) (before : Option α) (value : Except UsageError α) :
    Except UsageError (Option α) :=
  if before.isSome then .error (.repeatedOption option) else value.map some

def logLevelOf (value : String) : Except UsageError LogLevel :=
  (LogLevel.parse value).mapError fun _ => .malformedValue .logLevel value

def ceilingOf (value : String) : Except UsageError Float :=
  match Decimal.ofText? value with
  | some x => .ok x
  | none => .error (.malformedValue .costCeiling value)

/-- Take in the value of an option. -/
def set (g : Given) (option : OptionName) (value : String) : Except UsageError Given := do
  match option with
  | .config => return { g with config := ← once option g.config (path option.name value) }
  | .logLevel => return { g with logLevel := ← once option g.logLevel (logLevelOf value) }
  | .format =>
    return { g with format := ← once option g.format (choice option value OutputFormat.ofName?) }
  | .color =>
    return { g with color := ← once option g.color (choice option value ColorMode.ofName?) }
  | .framework => return { g with framework := ← once option g.framework (.ok value) }
  | .minSeverity => return { g with minSeverity := ← once option g.minSeverity (.ok value) }
  | .costCeiling =>
    return { g with costCeiling := ← once option g.costCeiling (ceilingOf value) }
  | .target => return { g with target := ← once option g.target (.ok value) }
  | .out => return { g with out := ← once option g.out (path option.name value) }
  | .provider => return { g with provider := ← once option g.provider (.ok value) }
  | .quiet | .advisory | .help | .version => throw (.needlessValue option)

/-- Take in an option without a value. -/
def turnOn (g : Given) (option : OptionName) : Except UsageError Given :=
  match option with
  | .help => .error .helpAsked
  | .version => .error .versionAsked
  | .quiet => if g.quiet then .error (.repeatedOption option) else .ok { g with quiet := true }
  | .advisory =>
    if g.advisory then .error (.repeatedOption option) else .ok { g with advisory := true }
  | _ => .error (.missingValue option)

/-- The common options, where those of another place count before these. -/
def options (g first : Given) : CommonOptions where
  config := first.config <|> g.config
  logLevel := first.logLevel <|> g.logLevel
  format := (first.format <|> g.format).getD .text
  color := (first.color <|> g.color).getD .auto
  quiet := first.quiet || g.quiet

/-- The command with what was given to it. -/
def command (g : Given) (name : CommandName) : Except UsageError Command :=
  match name, g.graph with
  | .catalog, _ => .ok (.catalog g.provider)
  | .rules, _ => .ok (.rules g.framework)
  | .scan, some graph => .ok (.scan graph (g.framework.getD "all"))
  | .analyze, some graph => .ok (.analyze graph g.advisory g.minSeverity)
  | .test, some graph => .ok (.test graph g.costCeiling)
  | .generate, some graph => .ok (.generate graph g.target g.out)
  | _, none => .error (.missingGraph name)

end Given

/-! ## Words -/

/-- What is not taken in yet. -/
inductive Pending where
  | nothing
  | option (name : OptionName) (value : Option String)
  | graph (path : String)
deriving DecidableEq, Repr

/-- How far words are read. -/
structure Reading where
  given : Given := {}
  pending : Pending := .nothing
  /-- Whether `--` came before. -/
  literal : Bool := false
deriving DecidableEq

namespace Reading

/-- Take in what is pending. -/
def settle (r : Reading) : Except UsageError Reading := do
  match r.pending with
  | .nothing => return r
  | .option name none => throw (.missingValue name)
  | .option name (some value) =>
    return { r with given := ← r.given.set name value, pending := .nothing }
  | .graph path =>
    return { r with
      given := { r.given with graph := some (← Given.path "graph" path) }, pending := .nothing }

/-- Whether the next word is the value of an option. -/
def awaitsValue (r : Reading) : Bool :=
  match r.pending with
  | .option _ none => !r.literal
  | _ => false

def hasGraph (r : Reading) : Bool :=
  match r.pending with
  | .graph _ => true
  | _ => r.given.graph.isSome

/-- Start an option, with the value that is attached to it. -/
def option (r : Reading) (name : OptionName) (attached : Option String) :
    Except UsageError Reading := do
  let r ← r.settle
  match attached with
  | some value => return { r with given := ← r.given.set name value }
  | none => return { r with pending := .option name none }

def turnOn (r : Reading) (name : OptionName) : Except UsageError Reading := do
  let r ← r.settle
  return { r with given := ← r.given.turnOn name }

/-- Read a long option, without its dashes. -/
def long (level : Level) (r : Reading) (cs : List Char) : Except UsageError Reading :=
  let (name, rest) := cs.span (· ≠ '=')
  let attached : Option String := match rest with
    | [] => none
    | _ :: value => some (String.ofList value)
  match level.long? (String.ofList name) with
  | none => .error (.unknownArgument ("--" ++ String.ofList name))
  | some option =>
    if option.takesValue then r.option option attached
    else if attached.isSome then .error (.needlessValue option)
    else r.turnOn option

/-- Read letters; the first that takes a value takes the others as its value. -/
def letters (level : Level) (r : Reading) : List Char → Except UsageError Reading
  | [] => .ok r
  | c :: rest =>
    match level.short? c with
    | none => .error (.unknownArgument (String.ofList ['-', c]))
    | some option =>
      if option.takesValue then
        r.option option <| match rest with
          | [] => none
          | '=' :: value | value => some (String.ofList value)
      else do letters level (← r.turnOn option) rest

/-- Read a word that is no option: the graph of a command. -/
def free (level : Level) (r : Reading) (word : String) : Except UsageError Reading := do
  match level with
  | .program =>
    if r.literal && (word = "help" || (CommandName.ofName? word).isSome) then
      throw (.unknownArgument word)
    else throw (.unknownCommand word)
  | .command name =>
    if name.takesGraph && !r.hasGraph then
      return { (← r.settle) with pending := .graph word }
    else throw (.unknownArgument word)

/-- Read a word. -/
def word (level : Level) (r : Reading) (w : String) : Except UsageError Reading :=
  if r.literal then r.free level w
  else match w.toList with
    | ['-', '-'] => .ok { r with literal := true }
    | '-' :: '-' :: rest => r.long level rest
    | '-' :: c :: rest => r.letters level (c :: rest)
    | _ =>
      match r.pending with
      | .option name none => .ok { r with pending := .option name (some w) }
      | _ => r.free level w

end Reading

/-! ## Invocations -/

/-- Read the words of a command. -/
def Given.ofWords (name : CommandName) (words : List String) : Except UsageError Given := do
  let r ← words.foldlM (Reading.word (.command name)) {}
  return (← r.settle).given

/-- What the words behind `help` ask for: one command at most. -/
def UsageError.ofHelp : List String → UsageError
  | [] => .helpAsked
  | word :: rest =>
    if word = "help" || (CommandName.ofName? word).isSome then
      match rest with
      | [] => .helpAsked
      | next :: _ => .unknownCommand next
    else .unknownCommand word

namespace Invocation

/-- Read words from the options in front of a command on. -/
def ofWords (r : Reading) : List String → Except UsageError Invocation
  | [] => do
    let r ← r.settle
    throw (if r.given = {} then .nothingGiven else .missingCommand)
  | word :: rest =>
    let other : Except UsageError Invocation := do ofWords (← r.word .program word) rest
    if r.literal || r.awaitsValue then other
    else if word = "help" then .error (.ofHelp rest)
    else match CommandName.ofName? word with
      | some name => do
        let own ← Given.ofWords name rest
        let command ← own.command name
        let r ← r.settle
        return { options := r.given.options own, command }
      | none => other

/-- The invocation that the words behind the program's name make. -/
def ofArguments (words : List String) : Except UsageError Invocation :=
  ofWords {} words

end Invocation

end CloudGraph

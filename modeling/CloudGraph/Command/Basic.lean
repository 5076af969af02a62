import CloudGraph.Logging.Level

/-!
# Commands

What the program can be asked to do, and the options that go with every command.
-/

namespace CloudGraph

inductive OutputFormat where
  | text | json | yaml
deriving DecidableEq, Repr

namespace OutputFormat

def name : OutputFormat → String
  | .text => "text"
  | .json => "json"
  | .yaml => "yaml"

def ofName? (name : String) : Option OutputFormat :=
  [text, json, yaml].find? (·.name == name)

end OutputFormat

inductive ColorMode where
  | always | never | auto
deriving DecidableEq, Repr

namespace ColorMode

def name : ColorMode → String
  | .always => "always"
  | .never => "never"
  | .auto => "auto"

def ofName? (name : String) : Option ColorMode :=
  [always, never, auto].find? (·.name == name)

end ColorMode

/-- Options that every command takes. -/
structure CommonOptions where
  /-- The path of the settings. -/
  config : Option String := none
  logLevel : Option LogLevel := none
  format : OutputFormat := .text
  color : ColorMode := .auto
  /-- Whether only results are printed. -/
  quiet : Bool := false
deriving DecidableEq, Repr

/-- A command with its arguments; `graph` is the path of a graph. -/
inductive Command where
  /-- Check a graph against a framework, or all of them. -/
  | scan (graph framework : String)
  /-- Look for flaws, with advice or without, from some severity on. -/
  | analyze (graph : String) (advisory : Bool) (minSeverity : Option String)
  | test (graph : String) (costCeiling : Option Float)
  | generate (graph : String) (target outputFolder : Option String)
  | catalog (provider : Option String)
  | rules (framework : Option String)
deriving DecidableEq

structure Invocation where
  options : CommonOptions
  command : Command
deriving DecidableEq

/-- Whether a command found what the user hoped for. -/
inductive Verdict where
  | success
  | failed
deriving DecidableEq, Repr

end CloudGraph

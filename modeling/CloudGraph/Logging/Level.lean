import CloudGraph.Text.Blank
import CloudGraph.Text.Casing

/-!
# Log levels and formats

The levels of log messages, from errors to traces, and the formats they are written in.
-/

namespace CloudGraph

inductive LogLevel where
  | error | warn | info | debug | trace
deriving DecidableEq, Repr

/-- A text that names no level. -/
structure InvalidLogLevel where
  text : String
deriving DecidableEq, Repr

def InvalidLogLevel.message (e : InvalidLogLevel) : String :=
  "Invalid log level: " ++ e.text

namespace LogLevel

def all : List LogLevel := [.error, .warn, .info, .debug, .trace]

def name : LogLevel → String
  | .error => "error"
  | .warn => "warn"
  | .info => "info"
  | .debug => "debug"
  | .trace => "trace"

/-- The name as a heading. -/
def title : LogLevel → String
  | .error => "ERROR"
  | .warn => "WARN"
  | .info => "INFO"
  | .debug => "DEBUG"
  | .trace => "TRACE"

/-- The position in the order of the levels; a greater rank says more. -/
def rank : LogLevel → Nat
  | .error => 1
  | .warn => 2
  | .info => 3
  | .debug => 4
  | .trace => 5

def ofName? (name : String) : Option LogLevel :=
  all.find? (·.name == name)

/-- The level that a user named, in any case of letters. -/
def parse (text : String) : Except InvalidLogLevel LogLevel :=
  match Text.lowercase (Text.trim text) with
  | "error" => .ok .error
  | "warn" | "warning" => .ok .warn
  | "info" => .ok .info
  | "debug" => .ok .debug
  | "trace" => .ok .trace
  | _ => .error ⟨text⟩

end LogLevel

inductive LogFormat where
  /-- Lines for people. -/
  | text
  /-- An object for each event. -/
  | json
deriving DecidableEq, Repr

/-- A text that names no format. -/
structure InvalidLogFormat where
  text : String
deriving DecidableEq, Repr

def InvalidLogFormat.message (e : InvalidLogFormat) : String :=
  "Invalid log format: " ++ e.text

namespace LogFormat

def name : LogFormat → String
  | .text => "text"
  | .json => "json"

def ofName? (name : String) : Option LogFormat :=
  [text, json].find? (·.name == name)

/-- The format that a user named, in any case of letters. -/
def parse (text : String) : Except InvalidLogFormat LogFormat :=
  match Text.lowercase (Text.trim text) with
  | "text" | "pretty" => .ok .text
  | "json" => .ok .json
  | _ => .error ⟨text⟩

end LogFormat

end CloudGraph

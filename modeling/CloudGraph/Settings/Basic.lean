import CloudGraph.Check.Cost
import CloudGraph.Decimal.Shortest
import CloudGraph.Files.Fault
import CloudGraph.Generate.Target
import CloudGraph.Logging.Level

/-!
# Settings

What can be set about logging, advice, the cost checks and generation. `Settings.check` accepts
settings that work together.
-/

namespace CloudGraph

structure LogSettings where
  level : LogLevel := .warn
  format : LogFormat := .text
  /-- Further directives, such as `target=debug`. -/
  directives : List String := []
  includeTargets : Bool := false
  ansi : Bool := true
deriving DecidableEq

/-- How advice is asked for; without an endpoint it is not. -/
structure AdvisorySettings where
  endpoint : Option String := none
  model : String := "llama3.1"
  /-- How long one request may take. -/
  deadlineSeconds : UInt64 := 30
  maxTokens : UInt32 := 2000
deriving DecidableEq

structure GenerateSettings where
  defaultTarget : Target := .terraform
  /-- Where documents are written unless the command says it. -/
  outputFolder : Option String := none
deriving DecidableEq

structure Settings where
  logging : LogSettings := {}
  advisory : AdvisorySettings := {}
  limits : CostLimits := {}
  generate : GenerateSettings := {}
deriving DecidableEq

/-- Why settings do not work together. -/
inductive SettingsFault where
  | noDeadline
  | noTokens
  | endpointScheme (endpoint : String)
  | noModel
  | ceiling (value : Float)
  | ratio (value : Float)
deriving DecidableEq

def SettingsFault.message : SettingsFault → String
  | .noDeadline => "advisory.deadline_secs must be greater than zero"
  | .noTokens => "advisory.max_tokens must be greater than zero"
  | .endpointScheme endpoint => "advisory.endpoint '" ++ endpoint ++ "' must be an http(s) URL"
  | .noModel => "advisory.model must be set when an endpoint is configured"
  | .ceiling x =>
    "validation.monthly_cost_ceiling must be positive, got " ++ Decimal.plainStyle.render x
  | .ratio x =>
    "validation.cost_warning_ratio must be in (0, 1], got " ++ Decimal.plainStyle.render x

/-- Why settings are not read or written. -/
inductive SettingsError where
  | fileNotFound (path : String)
  | invalidVariable (name : String) (cause : InvalidLogLevel)
  | invalid (fault : SettingsFault)
  | inaccessible (fault : FileFault)
  | unwritable
  | malformed
deriving DecidableEq

def SettingsError.message : SettingsError → String
  | .fileNotFound path => "Configuration file not found: " ++ path
  | .invalidVariable name cause =>
    "Failed to parse configuration: " ++ name ++ ": " ++ cause.message
  | .invalid fault => "Validation failed: " ++ fault.message
  | .inaccessible fault => "IO error: " ++ fault.message
  | .unwritable => "Serialization error"
  | .malformed => "Deserialization error"

/-! ## Checks -/

def hasWebScheme (endpoint : String) : Bool :=
  "http://".isPrefixOf endpoint || "https://".isPrefixOf endpoint

def AdvisorySettings.fault? (s : AdvisorySettings) : Option SettingsFault :=
  if s.deadlineSeconds = 0 then some .noDeadline
  else if s.maxTokens = 0 then some .noTokens
  else match s.endpoint with
    | some endpoint =>
      if !hasWebScheme endpoint then some (.endpointScheme endpoint)
      else if Text.isBlankText s.model then some .noModel
      else none
    | none => none

def CostLimits.fault? (l : CostLimits) : Option SettingsFault :=
  if l.monthlyCeiling.isNaN || l.monthlyCeiling ≤ 0 then some (.ceiling l.monthlyCeiling)
  else if l.warningRatio.isNaN || l.warningRatio ≤ 0 || 1 < l.warningRatio then
    some (.ratio l.warningRatio)
  else none

def Settings.fault? (s : Settings) : Option SettingsFault :=
  s.advisory.fault? <|> s.limits.fault?

/-- Accept settings without a fault. -/
def Settings.check (s : Settings) : Except SettingsError Unit :=
  match s.fault? with
  | some fault => .error (.invalid fault)
  | none => .ok ()

/-! ## Variables -/

namespace Settings

def endpointVariable : String := "INFRAGRAPH_ADVISORY_ENDPOINT"

def modelVariable : String := "INFRAGRAPH_ADVISORY_MODEL"

def logLevelVariable : String := "INFRAGRAPH_LOG_LEVEL"

/-- Set the endpoint to what a variable holds; a blank one unsets it. -/
def withEndpoint (s : Settings) (value : Option String) : Settings :=
  match value with
  | some text =>
    let endpoint := if Text.isBlankText text then none else some (Text.trim text)
    { s with advisory := { s.advisory with endpoint } }
  | none => s

def withModel (s : Settings) (value : Option String) : Settings :=
  match value with
  | some text => { s with advisory := { s.advisory with model := Text.trim text } }
  | none => s

def withLogLevel (s : Settings) (level : LogLevel) : Settings :=
  { s with logging := { s.logging with level } }

/-- The settings with the values of variables, and the error of a variable that names no level;
the values of the others are kept then. -/
def override (s : Settings) (value? : String → Option String) :
    Settings × Except SettingsError Unit :=
  let s := (s.withEndpoint (value? endpointVariable)).withModel (value? modelVariable)
  match value? logLevelVariable with
  | some text =>
    match LogLevel.parse text with
    | .ok level => (s.withLogLevel level, .ok ())
    | .error e => (s, .error (.invalidVariable logLevelVariable e))
  | none => (s, .ok ())

end Settings

end CloudGraph

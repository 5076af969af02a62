import CloudGraph.Command.Display
import CloudGraph.Command.Environment
import CloudGraph.Command.Host
import CloudGraph.Error
import CloudGraph.Files.Path
import CloudGraph.Generate.Generation
import CloudGraph.Logging.Filter

/-!
# Running commands

`Setup.load` gathers the settings for a run: from the file, then from variables, then from the
options. `Setup.run` runs a command on a host. A graph is read before the command's own
arguments are looked at.
-/

namespace CloudGraph

/-- The graph in a file: YAML where the path says so, and else JSON. -/
def Graph.ofFile (path text : String) : Except GraphError Graph :=
  match Path.extension? path with
  | some "yaml" | some "yml" => Graph.ofYamlText text
  | _ => Graph.ofJsonText text

/-- The rules of every set, each with the name of the set. -/
def Rule.sets : List (String × Rule) :=
  Framework.all.flatMap (fun f => f.rules.map (f.id, ·)) ++ Rule.heuristics.map ("heuristics", ·)

structure Setup where
  settings : Settings
  display : Display

namespace Setup

variable {m : Type → Type} [Monad m] [Host m]

/-! ## Settings -/

/-- The settings in the file at a path, which has to exist. -/
def readSettings (path : String) : ExceptT SettingsError m Settings := do
  if ← Host.isThere path then
    match ← Host.read path with
    | .ok text => Settings.ofToml text
    | .error fault => throw (.inaccessible fault)
  else throw (.fileNotFound path)

/-- The settings in a file, which has to exist if its path is given. -/
def fileSettings (env : Environment) : Option String → ExceptT SettingsError m Settings
  | some path => readSettings path
  | none => do
    if ← Host.isThere env.settingsPath then readSettings env.settingsPath else return {}

def settingsOf (env : Environment) (options : CommonOptions) :
    ExceptT SettingsError m Settings := do
  let (settings, overridden) := (← fileSettings env options.config).override env.value?
  overridden
  let settings := match options.logLevel with
    | some level => settings.withLogLevel level
    | none => settings
  settings.check
  return settings

def load (env : Environment) (options : CommonOptions) : ExceptT Error m Setup := do
  let settings ← (settingsOf env options).adapt Error.settings
  let colored := options.color.isColored env
  return {
    settings := { settings with logging := { settings.logging with ansi := colored } }
    display := { format := options.format, colored, quiet := options.quiet } }

/-! ## Parts of commands -/

def loadGraph (path : String) : ExceptT Error m Graph := do
  match ← Host.read path with
  | .ok text => (Graph.ofFile path text).mapError Error.graph
  | .error fault => throw (.graph (.unreadable fault))

/-- Make a folder and write the documents into it; their paths. -/
def writeDocuments (folder : String) (a : Artifact) : ExceptT Error m (List String) := do
  let files := a.documents.map fun d => (Path.join folder d.name, d.content)
  match ← Host.makeFolders folder with
  | .error fault => throw (.file fault)
  | .ok _ =>
    match ← Host.writeAll files with
    | .error fault => throw (.file fault)
    | .ok _ => return files.map (·.1)

/-- Ask the service of the settings about a graph; none is asked without an endpoint. -/
def advice (s : Setup) (g : Graph) : m (Option ChatOutcome) := do
  match ChatService.ofSettings? s.settings.advisory with
  | none => return none
  | some service =>
    match service.prepare (Advisory.request g s.settings.advisory.maxTokens) with
    | .ok request => return some (ChatService.outcome ((← Host.send request).reply request.url))
    | .error fault => return some (ChatService.outcome (.error fault))

/-! ## Commands -/

def scan (s : Setup) (env : Environment) (graph framework : String) :
    ExceptT Error m Verdict := do
  let g ← loadGraph graph
  let reports ←
    if Text.eqIgnoringAsciiCase framework "all" then pure (evaluateAllFrameworks g env.now)
    else do
      let f ← (Framework.parse framework).mapError fun e =>
        Error.option "framework" framework e.message
      pure [evaluateFramework g f env.now]
  Host.print (s.display.reports reports)
  return .success

/-- The findings that are at least as severe as a word says. -/
def atLeast (word : Option String) (fs : List Finding) : List Finding :=
  match word with
  | some w => fs.filter fun f => (Severity.normalize w).rank ≤ f.severity.rank
  | none => fs

def analyze (s : Setup) (graph : String) (advisory : Bool) (minSeverity : Option String) :
    ExceptT Error m Verdict := do
  let g ← loadGraph graph
  if advisory && s.settings.advisory.endpoint.isNone then
    Host.printMessage <|
      s.display.warning "advisory requested but no advisory endpoint is configured"
  let outcome ← if advisory then s.advice g else pure none
  Host.print (s.display.analysis (atLeast minSeverity (Advisory.analyze g outcome)))
  return .success

/-- The limits of the cost checks with another ceiling, which must be positive. -/
def limitsWith (limits : CostLimits) : Option Float → Except Error CostLimits
  | none => .ok limits
  | some ceiling =>
    if ceiling.isNaN || ceiling ≤ 0 then
      .error (.option "cost-ceiling" (Decimal.plainStyle.render ceiling) "must be positive")
    else .ok { limits with monthlyCeiling := ceiling }

def test (s : Setup) (graph : String) (costCeiling : Option Float) :
    ExceptT Error m Verdict := do
  let g ← loadGraph graph
  let limits ← limitsWith s.settings.limits costCeiling
  let checks := runChecks g limits
  Host.print (s.display.checks checks)
  return if (CheckSummary.ofChecks checks).gate then .success else .failed

def generate (s : Setup) (graph : String) (target outputFolder : Option String) :
    ExceptT Error m Verdict := do
  let g ← loadGraph graph
  let target ← match target with
    | some text => (Target.parse text).mapError fun e => Error.option "target" text e.message
    | none => pure s.settings.generate.defaultTarget
  match CloudGraph.generate target g with
  | .error failure =>
    Host.printMessage <| s.display.warning
      (toString failure.account.resourceCount ++ " resources rendered before the failure")
    throw (.generation failure)
  | .ok artifact =>
    Host.printMessage (s.display.warnings artifact)
    let written ← match outputFolder <|> s.settings.generate.outputFolder with
      | some folder => writeDocuments folder artifact
      | none => pure []
    Host.print (s.display.artifact artifact written)
    return .success

def catalog (s : Setup) (provider : Option String) : ExceptT Error m Verdict := do
  let entries ← match provider with
    | some text => do
      let p ← (Provider.parse text).mapError fun e => Error.option "provider" text e.message
      pure (Catalog.entriesOf p)
    | none => pure Catalog.entries
  Host.print (s.display.catalog entries)
  return .success

def rules (s : Setup) (framework : Option String) : ExceptT Error m Verdict := do
  let listed ← match framework with
    | some text => do
      let f ← (Framework.parse text).mapError fun e => Error.option "framework" text e.message
      pure (f.rules.map (f.id, ·))
    | none => pure Rule.sets
  Host.print (s.display.rules listed)
  return .success

def run (s : Setup) (env : Environment) : Command → ExceptT Error m Verdict
  | .scan graph framework => s.scan env graph framework
  | .analyze graph advisory minSeverity => s.analyze graph advisory minSeverity
  | .test graph costCeiling => s.test graph costCeiling
  | .generate graph target outputFolder => s.generate graph target outputFolder
  | .catalog provider => s.catalog provider
  | .rules framework => s.rules framework

/-- Check the log directives, of which a run goes on without the bad ones. -/
def checkLogging (s : Setup) (env : Environment) : Except InvalidDirective Unit :=
  s.settings.logging.checkFilter (env.value? Environment.logVariable)

end Setup

end CloudGraph

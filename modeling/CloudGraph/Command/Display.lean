import CloudGraph.Catalog.Entries
import CloudGraph.Check.Suites
import CloudGraph.Command.Basic
import CloudGraph.Decimal.Places
import CloudGraph.Generate.Artifact
import CloudGraph.Rule.Report
import CloudGraph.Terminal.Style
import CloudGraph.Yaml.Writer

/-!
# Display

How results are shown: as lines of text, or as a value in JSON or YAML. Each function gives the
whole text that a command prints.
-/

namespace CloudGraph

structure Display where
  format : OutputFormat := .text
  colored : Bool := false
  quiet : Bool := false
deriving DecidableEq, Repr

/-! ## Columns -/

/-- A text with blanks in front up to a width. -/
def padStart (width : Nat) (text : String) : String :=
  String.ofList (List.replicate (width - text.length) ' ') ++ text

/-- A text with blanks behind it up to a width. -/
def padEnd (width : Nat) (text : String) : String :=
  text ++ String.ofList (List.replicate (width - text.length) ' ')

def Severity.colour : Severity → Colour
  | .critical => .magenta
  | .high => .red
  | .medium => .yellow
  | .low => .cyan

def Severity.title : Severity → String
  | .critical => "CRITICAL"
  | .high => "HIGH"
  | .medium => "MEDIUM"
  | .low => "LOW"

def Status.colour : Status → Colour
  | .pass => .green
  | .fail => .red
  | .warning => .yellow
  | .skipped => .grey

def Status.title : Status → String
  | .pass => "PASS"
  | .fail => "FAIL"
  | .warning => "WARNING"
  | .skipped => "SKIPPED"

def scoreColour (score : Nat) : Colour :=
  if 90 ≤ score then .green else if 70 ≤ score then .yellow else .red

namespace Display

def paint (d : Display) (style : TextStyle) (text : String) : String :=
  style.paint d.colored text

def bold (d : Display) (text : String) : String :=
  d.paint { bold := true } text

def dimmed (d : Display) (text : String) : String :=
  d.paint { dimmed := true } text

def heading (d : Display) (text : String) : String :=
  d.bold text ++ "\n"

/-- A line about a success; a quiet display has none. -/
def success (d : Display) (text : String) : String :=
  if d.quiet then "" else d.paint Colour.green.style "✓" ++ " " ++ text ++ "\n"

/-- A line that is no result. -/
def note (d : Display) (text : String) : String :=
  if d.quiet then "" else d.dimmed text ++ "\n"

def warning (d : Display) (text : String) : String :=
  if d.quiet then "" else d.paint Colour.yellow.style "!" ++ " " ++ text ++ "\n"

/-- The output for a value that also has a text. -/
def output (d : Display) (value : Json) (text : String) : String :=
  match d.format with
  | .text => text
  | .json => value.pretty ++ "\n"
  | .yaml => Yaml.write value

def concatMap {α : Type} (f : α → String) (xs : List α) : String :=
  String.join (xs.map f)

/-! ## Findings -/

/-- A finding on one line, and the nodes that it names on another. -/
def finding (d : Display) (f : Finding) : String :=
  "  " ++ d.paint f.severity.colour.style (padStart 8 f.severity.title) ++ " " ++ d.bold f.id
    ++ " " ++ f.title ++ "\n"
    ++ (if f.affected.isEmpty then ""
        else "           " ++ d.dimmed (", ".intercalate f.affected) ++ "\n")

def report (d : Display) (r : ComplianceReport) : String :=
  let score := d.paint (scoreColour r.score).style (padStart 3 (toString r.score))
  d.heading (r.framework.displayName ++ " " ++ score ++ " (" ++ toString r.passedChecks ++ "/"
      ++ toString r.totalChecks ++ " checks passed)")
    ++ concatMap d.finding r.findings

def reports (d : Display) (rs : List ComplianceReport) : String :=
  d.output (.arr (rs.map fun r => r.toJson (some r.timestamp.text))) (concatMap d.report rs)

def analysis (d : Display) (fs : List Finding) : String :=
  let summary := Summary.ofFindings fs
  d.output (.obj [("summary", summary.toJson), ("findings", .arr (fs.map Finding.toJson))]) <|
    d.heading (toString summary.total ++ " findings, health score "
        ++ toString summary.healthScore.toNat)
      ++ concatMap d.finding fs
      ++ (if fs.isEmpty then d.success "no issues found" else "")

/-! ## Checks -/

def check (d : Display) (c : Check) : String :=
  "  " ++ d.paint c.status.colour.style (padStart 7 c.status.title) ++ " " ++ d.bold c.name ++ " "
    ++ c.message ++ "\n"

def checks (d : Display) (cs : List Check) : String :=
  let s := CheckSummary.ofChecks cs
  d.output (.obj [("summary", s.toJson), ("tests", .arr (cs.map Check.toJson))]) <|
    concatMap d.check cs
      ++ d.heading (toString s.total ++ " tests: " ++ toString s.passed ++ " passed, "
          ++ toString s.failed ++ " failed, " ++ toString s.warnings ++ " warnings, "
          ++ toString s.skipped ++ " skipped")

/-! ## Catalog and rules -/

def catalogEntry (e : CatalogEntry) : String :=
  "  " ++ padEnd 24 e.componentType ++ " " ++ padEnd 28 e.displayName ++ " " ++ e.provider.name
    ++ " " ++ e.category.name ++ " $" ++ Decimal.fixed 0 e.cost.minMonthly ++ "-"
    ++ Decimal.fixed 0 e.cost.maxMonthly ++ "/mo\n"

def catalog (d : Display) (es : List CatalogEntry) : String :=
  d.output (.arr (es.map CatalogEntry.toJson)) (concatMap catalogEntry es)

def ruleJson (set : String) (r : Rule) : Json :=
  .obj [
    ("id", .str r.id),
    ("set", .str set),
    ("title", .str r.title),
    ("severity", .str r.severity.name),
    ("category", .str r.category.name)]

def rule (set : String) (r : Rule) : String :=
  "  " ++ padEnd 12 set ++ " " ++ padEnd 28 r.id ++ " " ++ r.severity.name ++ " " ++ r.title
    ++ "\n"

/-- Rules, each with the set that it belongs to. -/
def rules (d : Display) (rs : List (String × Rule)) : String :=
  d.output (.arr (rs.map fun r => ruleJson r.1 r.2)) (concatMap (fun r => rule r.1 r.2) rs)

/-! ## Artifacts -/

/-- The documents, or the paths that they were written to, and the size of the plan. -/
def artifact (d : Display) (a : Artifact) (written : List String) : String :=
  let documents :=
    if written.isEmpty then
      concatMap (fun doc => d.heading ("# " ++ doc.name) ++ doc.content ++ "\n") a.documents
    else concatMap (fun path => d.success ("wrote " ++ path)) written
  d.output a.toJson <|
    documents ++ d.note (a.target.name ++ ": " ++ toString a.resourceCount ++ " resources, "
      ++ toString a.dependencyCount ++ " dependencies, " ++ toString a.skippedCount ++ " skipped")

/-- The warnings of an artifact, and the nodes that were left out. -/
def warnings (d : Display) (a : Artifact) : String :=
  concatMap d.warning a.warnings
    ++ concatMap (fun s : SkippedNode =>
        d.warning ("skipped " ++ s.nodeId ++ " (" ++ s.componentType ++ "): " ++ s.reason))
      a.skipped

end Display

end CloudGraph

import CloudGraph.Document
import CloudGraph.Settings.Basic
import CloudGraph.Toml.Reader
import CloudGraph.Toml.Writer

/-!
# Reading and writing settings

Settings are read from TOML, where every section and every entry may be missing, and written
back with all that is set.
-/

namespace CloudGraph

variable {τ : Type} [TypedDocument τ]

/-- A number below a limit. -/
def word? (limit : Nat) (doc : τ) : Option Nat := do
  let n ← TypedDocument.integer? doc
  if 0 ≤ n ∧ n < limit then some n.toNat else none

namespace LogSettings

def fieldNames : List String := ["level", "format", "directives", "include_targets", "ansi"]

def ofDocument? (doc : τ) : Option LogSettings := do
  let fields ← Document.record? fieldNames doc
  let level ← Document.optional fields "level" .warn fun d =>
    (Document.choice? d).bind LogLevel.ofName?
  let format ← Document.optional fields "format" .text fun d =>
    (Document.choice? d).bind LogFormat.ofName?
  let directives ← Document.optional fields "directives" [] fun d => do
    (← Document.items? d).mapM Document.text?
  let includeTargets ← Document.optional fields "include_targets" false TypedDocument.flag?
  let ansi ← Document.optional fields "ansi" true TypedDocument.flag?
  return { level, format, directives, includeTargets, ansi }

def toJson (s : LogSettings) : Json :=
  .obj [
    ("level", .str s.level.name),
    ("format", .str s.format.name),
    ("directives", .strings s.directives),
    ("include_targets", .bool s.includeTargets),
    ("ansi", .bool s.ansi)]

end LogSettings

/-- The text of a boolean. -/
def flagText (b : Bool) : String :=
  if b then "true" else "false"

/-- An entry for a value that is set. -/
def settingEntry? (key : String) (value : Option String) : List (String × String) :=
  match value with
  | some s => [(key, Toml.quote s)]
  | none => []

namespace AdvisorySettings

def fieldNames : List String := ["endpoint", "model", "deadline_secs", "max_tokens"]

def ofDocument? (doc : τ) : Option AdvisorySettings := do
  let fields ← Document.record? fieldNames doc
  let defaults : AdvisorySettings := {}
  let endpoint ← Document.nullable fields "endpoint" Document.text?
  let model ← Document.optional fields "model" defaults.model Document.text?
  let deadlineSeconds ← Document.optional fields "deadline_secs" defaults.deadlineSeconds fun d =>
    (word? UInt64.size d).map UInt64.ofNat
  let maxTokens ← Document.optional fields "max_tokens" defaults.maxTokens fun d =>
    (word? UInt32.size d).map UInt32.ofNat
  return { endpoint, model, deadlineSeconds, maxTokens }

def toJson (s : AdvisorySettings) : Json :=
  .obj [
    ("endpoint", (s.endpoint.map Json.str).getD .null),
    ("model", .str s.model),
    ("deadline_secs", .ofNat s.deadlineSeconds.toNat),
    ("max_tokens", .ofNat s.maxTokens.toNat)]

end AdvisorySettings

namespace CostLimits

def fieldNames : List String := ["monthly_cost_ceiling", "cost_warning_ratio"]

def ofDocument? (doc : τ) : Option CostLimits := do
  let fields ← Document.record? fieldNames doc
  let defaults : CostLimits := {}
  let monthlyCeiling ← Document.optional fields "monthly_cost_ceiling" defaults.monthlyCeiling
    TypedDocument.double?
  let warningRatio ← Document.optional fields "cost_warning_ratio" defaults.warningRatio
    TypedDocument.double?
  return { monthlyCeiling, warningRatio }

def toJson (l : CostLimits) : Json :=
  .obj [
    ("monthly_cost_ceiling", .ofFloat l.monthlyCeiling),
    ("cost_warning_ratio", .ofFloat l.warningRatio)]

end CostLimits

namespace GenerateSettings

def fieldNames : List String := ["default_target", "output_dir"]

def ofDocument? (doc : τ) : Option GenerateSettings := do
  let fields ← Document.record? fieldNames doc
  let defaultTarget ← Document.optional fields "default_target" .terraform fun d =>
    (Document.choice? d).bind Target.ofName?
  let outputFolder ← Document.nullable fields "output_dir" Document.text?
  return { defaultTarget, outputFolder }

def toJson (s : GenerateSettings) : Json :=
  .obj [
    ("default_target", .str s.defaultTarget.name),
    ("output_dir", (s.outputFolder.map Json.str).getD .null)]

end GenerateSettings

namespace Settings

def fieldNames : List String := ["logging", "advisory", "validation", "codegen"]

def ofDocument? (doc : τ) : Option Settings := do
  let fields ← Document.record? fieldNames doc
  let logging ← Document.optional fields "logging" {} LogSettings.ofDocument?
  let advisory ← Document.optional fields "advisory" {} AdvisorySettings.ofDocument?
  let limits ← Document.optional fields "validation" {} CostLimits.ofDocument?
  let generate ← Document.optional fields "codegen" {} GenerateSettings.ofDocument?
  return { logging, advisory, limits, generate }

def toJson (s : Settings) : Json :=
  .obj [
    ("logging", s.logging.toJson),
    ("advisory", s.advisory.toJson),
    ("validation", s.limits.toJson),
    ("codegen", s.generate.toJson)]

/-- The settings in a text of TOML. -/
def ofToml (text : String) : Except SettingsError Settings :=
  match (Toml.Value.ofText? text).bind ofDocument? with
  | some s => .ok s
  | none => .error .malformed

/-- The sections of the settings, each with the texts of its entries. -/
def sections (s : Settings) : List (String × List (String × String)) := [
  ("logging", [
    ("level", Toml.quote s.logging.level.name),
    ("format", Toml.quote s.logging.format.name),
    ("directives", Toml.listText s.logging.directives),
    ("include_targets", flagText s.logging.includeTargets),
    ("ansi", flagText s.logging.ansi)]),
  ("advisory", settingEntry? "endpoint" s.advisory.endpoint ++ [
    ("model", Toml.quote s.advisory.model),
    ("deadline_secs", toString s.advisory.deadlineSeconds.toNat),
    ("max_tokens", toString s.advisory.maxTokens.toNat)]),
  ("validation", [
    ("monthly_cost_ceiling", Toml.doubleText s.limits.monthlyCeiling),
    ("cost_warning_ratio", Toml.doubleText s.limits.warningRatio)]),
  ("codegen",
    ("default_target", Toml.quote s.generate.defaultTarget.name)
      :: settingEntry? "output_dir" s.generate.outputFolder)]

/-- The settings as a text of TOML, whose integers are signed words of 64 bits. -/
def toToml (s : Settings) : Except SettingsError String :=
  if s.advisory.deadlineSeconds.toNat < 0x8000000000000000 then .ok (Toml.document s.sections)
  else .error .unwritable

end Settings

end CloudGraph

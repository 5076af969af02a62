import CloudGraph.Generate.Identifier
import CloudGraph.Json.Basic
import CloudGraph.Text.Casing

/-!
# Targets

The four forms in which infrastructure is generated. A target names the longest identifier it
accepts, the style of its identifiers and the names its output needs for itself.
-/

namespace CloudGraph

inductive Target where
  | terraform | pulumi | arm | cloudFormation
deriving DecidableEq, Repr

/-- The two kinds of output: a program of statements, or one document. -/
inductive OutputShape where
  | program | document
deriving DecidableEq, Repr

def OutputShape.name : OutputShape → String
  | .program => "Program"
  | .document => "Document"

/-- A name that no target has. -/
structure UnknownTarget where
  name : String
deriving DecidableEq, Repr

def UnknownTarget.message (e : UnknownTarget) : String :=
  "Unknown target format: " ++ e.name

namespace Target

def all : List Target := [.terraform, .pulumi, .arm, .cloudFormation]

def name : Target → String
  | .terraform => "terraform"
  | .pulumi => "pulumi"
  | .arm => "arm"
  | .cloudFormation => "cloudformation"

def ofName? (name : String) : Option Target :=
  all.find? (·.name == name)

/-- The target that a user named, in any case of ASCII letters. -/
def parse (text : String) : Except UnknownTarget Target :=
  match Text.lowerAscii (Text.trim text) with
  | "terraform" | "tf" | "hcl" => .ok .terraform
  | "pulumi" | "typescript" => .ok .pulumi
  | "arm" | "azure-arm" => .ok .arm
  | "cloudformation" | "cfn" => .ok .cloudFormation
  | other => .error ⟨other⟩

def maxIdentifierLength : Target → Nat
  | .terraform | .pulumi => 64
  | .arm => 24
  | .cloudFormation => 32

def shape : Target → OutputShape
  | .terraform | .pulumi => .program
  | .arm | .cloudFormation => .document

def identifierStyle : Target → IdentifierStyle
  | .cloudFormation => .alphanumeric
  | .terraform | .pulumi | .arm => .snake

/-- Words that cannot name a variable of a program, and names that it declares for itself. -/
def programWords : List String := [
  "break", "case", "catch", "class", "const", "continue", "debugger", "default", "delete", "do",
  "else", "enum", "export", "extends", "false", "finally", "for", "function", "if", "import",
  "in", "instanceof", "new", "null", "return", "super", "switch", "this", "throw", "true", "try",
  "typeof", "var", "void", "while", "with", "let", "static", "yield", "await", "pulumi", "aws",
  "azure_native", "gcp", "ids"]

/-- Names that no resource may have. -/
def reservedNames : Target → List String
  | .pulumi => programWords
  | .terraform | .arm | .cloudFormation => []

end Target

/-- A value that a resource has unless its node sets another. -/
inductive DefaultValue where
  | text (value : String)
  | integer (value : Int64)
  | flag (value : Bool)
deriving DecidableEq

def DefaultValue.toJson : DefaultValue → Json
  | .text s => .str s
  | .integer n => .ofInt n.toInt
  | .flag b => .bool b

/-- What a component type becomes in a target. -/
structure ResourceMapping where
  resourceType : String
  apiVersion : Option String := none
  defaults : List (String × DefaultValue) := []
deriving DecidableEq

def ResourceMapping.versioned (m : ResourceMapping) (apiVersion : String) : ResourceMapping :=
  { m with apiVersion := some apiVersion }

/-- The mappings of a target by component type. -/
abbrev MappingTable := List (String × ResourceMapping)

end CloudGraph

import CloudGraph.Advisory.GraphSummary
import CloudGraph.Advisory.Suggestion
import CloudGraph.Json.Writer
import CloudGraph.Rule.Report

/-!
# Asking for advice

Advice comes from a chat service that is told about the graph. Whatever goes wrong, no answer
in time, an error, an answer without an array, means that there is no advice: the findings of
the heuristics are reported in any case.
-/

namespace CloudGraph

/-- Why a chat service gives no answer. -/
inductive ChatError where
  | network (reason : String)
  | unavailable (reason : String)
  | modelNotFound (reason : String)
  | malformed
deriving DecidableEq, Repr

def ChatError.message : ChatError → String
  | .network reason => "Network error: " ++ reason
  | .unavailable reason => "Service unavailable: " ++ reason
  | .modelNotFound reason => "Model not found: " ++ reason
  | .malformed => "Parsing error"

inductive ChatRole where
  | system | user | assistant
deriving DecidableEq, Repr

namespace ChatRole

def name : ChatRole → String
  | .system => "system"
  | .user => "user"
  | .assistant => "assistant"

def ofName? (name : String) : Option ChatRole :=
  [system, user, assistant].find? (·.name == name)

end ChatRole

structure ChatMessage where
  role : ChatRole
  content : String
deriving DecidableEq, Repr

/-- What a chat service is asked. -/
structure ChatRequest where
  messages : List ChatMessage
  maxTokens : UInt32 := 2000
  temperature : Float := 0.2

/-- What comes of a request. -/
inductive ChatOutcome where
  | text (content : String)
  | noText
  | failed (error : ChatError)
  /-- No answer before the deadline. -/
  | expired
deriving DecidableEq, Repr

namespace Advisory

def instructions : String :=
  "You are a cloud infrastructure reviewer. "
    ++ "Analyse the infrastructure graph you are given for security, cost, reliability "
    ++ "and performance problems. Respond with a JSON array only. Each element must be "
    ++ "an object with the fields: title, description, severity (critical, high, "
    ++ "medium or low), affectedResources (array of node ids from the graph), "
    ++ "remediation. Return [] when you find nothing."

/-- The request for advice about a graph. -/
def request (g : Graph) (maxTokens : UInt32) : ChatRequest where
  messages := [
    ⟨.system, instructions⟩,
    ⟨.user, "Infrastructure graph:\n" ++ g.summaryJson.pretty⟩]
  maxTokens

/-- The findings in a reply. -/
def findingsOfText (g : Graph) (reply : String) : List Finding :=
  ((firstArray? reply).bind (parseFindings? · g)).getD []

/-- The findings that come of a request, if one was made. -/
def findings (g : Graph) : Option ChatOutcome → List Finding
  | some (.text reply) => findingsOfText g reply
  | _ => []

/-- The findings of the heuristics, and the advice after them. -/
def analyze (g : Graph) (outcome : Option ChatOutcome) : List Finding :=
  evaluateHeuristics g ++ findings g outcome

end Advisory

end CloudGraph

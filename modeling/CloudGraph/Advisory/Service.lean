import CloudGraph.Advisory.Chat
import CloudGraph.Settings.Reader
import CloudGraph.Web.Exchange

/-!
# The chat service

A service takes a request as JSON at `/api/chat` under its endpoint and answers with a message.
`ChatService.body` is what is sent and `ChatService.outcome` reads what comes back.
-/

namespace CloudGraph

structure ChatService where
  endpoint : String := "http://localhost:11434"
  model : String := "llama3.1"
  /-- How many seconds a request may take. -/
  timeout : UInt64 := 60
deriving DecidableEq

namespace ChatService

def fieldNames : List String := ["endpoint", "model", "timeout"]

def ofDocument? {τ : Type} [TypedDocument τ] (doc : τ) : Option ChatService := do
  let fields ← Document.record? fieldNames doc
  let defaults : ChatService := {}
  let endpoint ← Document.optional fields "endpoint" defaults.endpoint Document.text?
  let model ← Document.optional fields "model" defaults.model Document.text?
  let timeout ← Document.optional fields "timeout" defaults.timeout fun d =>
    (word? UInt64.size d).map UInt64.ofNat
  return { endpoint, model, timeout }

def toJson (s : ChatService) : Json :=
  .obj [("endpoint", .str s.endpoint), ("model", .str s.model),
    ("timeout", .ofNat s.timeout.toNat)]

/-- The service that the settings name, if any. -/
def ofSettings? (s : AdvisorySettings) : Option ChatService :=
  s.endpoint.map fun endpoint => { endpoint, model := s.model, timeout := s.deadlineSeconds }

/-- The address that requests go to. -/
def address (s : ChatService) : String :=
  String.ofList (Text.dropEndWhile (· == '/') s.endpoint.toList) ++ "/api/chat"

/-- The body of a request. -/
def body (s : ChatService) (request : ChatRequest) : Json :=
  .obj [
    ("model", .str s.model),
    ("messages", .arr (request.messages.map fun m =>
      .obj [("role", .str m.role.name), ("content", .str m.content)])),
    ("stream", .bool false),
    ("options", .obj [
      ("num_predict", .ofNat request.maxTokens.toNat),
      ("temperature", .ofFloat request.temperature)])]

/-- What is sent, if it can be. -/
def prepare (s : ChatService) (request : ChatRequest) : Except Web.RequestFault Web.Request :=
  (Web.addressOf s.address).map fun url => { url, body := s.body request }

/-! ## Replies -/

/-- The content of a message; it must have a role too. -/
def messageContent? (r : Raw) : Option String := do
  let fields ← Document.record? ["role", "content"] r
  let _ ← Document.required fields "role" Document.text?
  Document.required fields "content" Document.text?

/-- The text in the body of a reply, if it is a reply; a text that is blank counts as none. -/
def replyText? (body : String) : Option (Option String) := do
  let reply ← Raw.ofText? body
  let fields ← Document.record? ["message", "response"] reply
  let message ← Document.nullable fields "message" messageContent?
  let response ← Document.nullable fields "response" Document.text?
  return (message <|> response).filter fun s => !Text.isBlankText s

/-- The error that a status other than success stands for. -/
def errorOfReply (r : Web.Reply) : ChatError :=
  if r.status = 404 then .modelNotFound r.content
  else if 500 ≤ r.status ∧ r.status ≤ 599 then .unavailable ("Server error: " ++ r.content)
  else .network ("HTTP " ++ r.statusText ++ ": " ++ r.content)

def outcomeOfReply (r : Web.Reply) : ChatOutcome :=
  if r.isSuccess then
    match replyText? r.content with
    | some (some text) => .text text
    | some none => .noText
    | none => .failed .malformed
  else .failed (errorOfReply r)

/-- What comes of a request that was or was not replied to. -/
def outcome : Except Web.RequestFault Web.Reply → ChatOutcome
  | .ok reply => outcomeOfReply reply
  | .error fault => .failed (.network fault.message)

end ChatService

end CloudGraph

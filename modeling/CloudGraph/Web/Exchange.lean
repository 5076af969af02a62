import CloudGraph.Json.Basic
import CloudGraph.Web.Url

/-!
# Requests and replies

A request sends a body to an address and gets a reply with a status and a body. A status has
three digits. One below 200 announces a reply that is still to come, but for 101, which ends the
exchange; some replies have no body whatever the server sends.
-/

namespace CloudGraph.Web

/-- A body sent to an address. -/
structure Request where
  url : Url
  body : Json

/-- The first line of a request. -/
def Request.line (r : Request) : String :=
  "POST " ++ r.url.target ++ " HTTP/1.1"

/-- Why there is no reply to a request. -/
inductive RequestFault where
  /-- There is no address to send it to. -/
  | noAddress
  /-- No request can name the address. -/
  | unsendable (url : Url)
  | failed (url : Url)
deriving DecidableEq, Repr

def RequestFault.message : RequestFault → String
  | .noAddress => "builder error"
  | .unsendable url => "builder error for url (" ++ url.text ++ ")"
  | .failed url => "error sending request for url (" ++ url.text ++ ")"

/-- The address that a text names, if requests can go there. -/
def addressOf (text : String) : Except RequestFault Url :=
  match Url.ofText? text with
  | none => .error .noAddress
  | some url => if url.isSendable then .ok url else .error (.unsendable url)

/-- What a server answers. -/
structure Reply where
  status : Nat := 200
  body : String := ""
deriving DecidableEq, Repr

/-- What comes of a connection. -/
inductive Connection where
  | answered (reply : Reply)
  | refused
deriving DecidableEq, Repr

namespace Reply

/-- The standard words for a status. -/
def reasonOf : Nat → String
  | 101 => "Switching Protocols"
  | 200 => "OK"
  | 201 => "Created"
  | 202 => "Accepted"
  | 203 => "Non Authoritative Information"
  | 204 => "No Content"
  | 205 => "Reset Content"
  | 206 => "Partial Content"
  | 207 => "Multi-Status"
  | 208 => "Already Reported"
  | 226 => "IM Used"
  | 300 => "Multiple Choices"
  | 301 => "Moved Permanently"
  | 302 => "Found"
  | 303 => "See Other"
  | 304 => "Not Modified"
  | 305 => "Use Proxy"
  | 307 => "Temporary Redirect"
  | 308 => "Permanent Redirect"
  | 400 => "Bad Request"
  | 401 => "Unauthorized"
  | 402 => "Payment Required"
  | 403 => "Forbidden"
  | 404 => "Not Found"
  | 405 => "Method Not Allowed"
  | 406 => "Not Acceptable"
  | 407 => "Proxy Authentication Required"
  | 408 => "Request Timeout"
  | 409 => "Conflict"
  | 410 => "Gone"
  | 411 => "Length Required"
  | 412 => "Precondition Failed"
  | 413 => "Payload Too Large"
  | 414 => "URI Too Long"
  | 415 => "Unsupported Media Type"
  | 416 => "Range Not Satisfiable"
  | 417 => "Expectation Failed"
  | 418 => "I'm a teapot"
  | 421 => "Misdirected Request"
  | 422 => "Unprocessable Entity"
  | 423 => "Locked"
  | 424 => "Failed Dependency"
  | 425 => "Too Early"
  | 426 => "Upgrade Required"
  | 428 => "Precondition Required"
  | 429 => "Too Many Requests"
  | 431 => "Request Header Fields Too Large"
  | 451 => "Unavailable For Legal Reasons"
  | 500 => "Internal Server Error"
  | 501 => "Not Implemented"
  | 502 => "Bad Gateway"
  | 503 => "Service Unavailable"
  | 504 => "Gateway Timeout"
  | 505 => "HTTP Version Not Supported"
  | 506 => "Variant Also Negotiates"
  | 507 => "Insufficient Storage"
  | 508 => "Loop Detected"
  | 510 => "Not Extended"
  | 511 => "Network Authentication Required"
  | _ => "<unknown status code>"

/-- The status with its words. -/
def statusText (r : Reply) : String :=
  String.ofList (Decimal.digitText r.status) ++ " " ++ reasonOf r.status

/-- Whether nothing is to come after the reply. -/
def isFinal (r : Reply) : Bool :=
  r.status = 101 || (200 ≤ r.status && r.status ≤ 999)

def isSuccess (r : Reply) : Bool :=
  200 ≤ r.status && r.status ≤ 299

/-- The body as a reader gets it. -/
def content (r : Reply) : String :=
  if [101, 204, 304].contains r.status then "" else r.body

end Reply

/-- The reply to a request. -/
def Connection.reply (c : Connection) (url : Url) : Except RequestFault Reply :=
  match c with
  | .answered reply => if reply.isFinal then .ok reply else .error (.failed url)
  | .refused => .error (.failed url)

end CloudGraph.Web

import CloudGraph.Text.Casing
import CloudGraph.Web.DomainName
import CloudGraph.Web.IpAddress
import CloudGraph.Web.Percent

/-!
# Web addresses

The parts of an `http` or `https` address. Reading follows the rules of the web: tabs and line
breaks are skipped, a backslash is a slash, the port that the scheme implies is dropped, `.` and
`..` are taken out of the path, and characters that an address cannot hold are percent-encoded.
A user's name and password are read over. A host is a domain name in its ASCII form or the
number of a machine.
-/

namespace CloudGraph.Web

inductive Host where
  | domain (name : String)
  | ipv4 (address : Ipv4)
  | ipv6 (address : Ipv6)
deriving DecidableEq, Repr

namespace Host

/-- A host in brackets is an address of eight groups. A name that ends in a number has to be an
address of four bytes. -/
def ofText? (cs : List Char) : Option Host :=
  match cs with
  | '[' :: rest =>
    if rest.getLast? == some ']' then (Ipv6.ofText? rest.dropLast).map ipv6 else none
  | _ => do
    let name ← DomainName.toAscii? (← Percent.decodeText? cs)
    if name.isEmpty then none
    else if Ipv4.isLike name.toList then (Ipv4.ofName? name.toList).map ipv4
    else some (domain name)

def text : Host → String
  | domain name => name
  | ipv4 address => address.text
  | ipv6 address => "[" ++ address.text ++ "]"

end Host

structure Url where
  secure : Bool
  host : Host
  port : Option Nat
  /-- The path with its leading slash. -/
  path : String
  query : Option String
  /-- What stands behind `#`; no request names it. -/
  fragment : Option String
deriving DecidableEq, Repr

namespace Url

def isSlash (c : Char) : Bool :=
  c == '/' || c == '\\'

/-- What ends the name of a host and its port. -/
def endsAuthority (c : Char) : Bool :=
  isSlash c || c == '?' || c == '#'

/-- Characters of a path that are encoded. -/
def pathReserved : List Char := ['"', '#', '<', '>', '?', '\x60', '\x7b', '\x7d']

/-- Characters of a query that are encoded. -/
def queryReserved : List Char := ['"', '#', '<', '>', '\'']

/-- Characters of a fragment that are encoded. -/
def fragmentReserved : List Char := ['"', '<', '>', '\x60']

/-- A segment with its encoded points read as such. -/
def plainPoints : List Char → List Char
  | '%' :: '2' :: 'e' :: rest | '%' :: '2' :: 'E' :: rest => '.' :: plainPoints rest
  | c :: rest => c :: plainPoints rest
  | [] => []

/-- Whether a segment names a drive, as `C:` does. -/
def isDrive : List Char → Bool
  | [letter, mark] => letter.isAlpha && (mark == ':' || mark == '|')
  | _ => false

/-- The segments without the last, unless that one names a drive. -/
def dropSegment (done : List (List Char)) : List (List Char) :=
  match done with
  | s :: rest => if isDrive s then done else rest
  | [] => []

/-- Take the segments that stand for this folder or the one above out of a path; `done` holds
the segments before, the last first. -/
def resolve (done : List (List Char)) : List (List Char) → List (List Char)
  | [] => done.reverse
  | s :: rest =>
    let close (done : List (List Char)) := if rest.isEmpty then [] :: done else done
    if plainPoints s = ['.', '.'] then resolve (close (dropSegment done)) rest
    else if plainPoints s = ['.'] then resolve (close done) rest
    else resolve (s :: done) rest

def pathText (cs : List Char) : String :=
  let inner := match cs with
    | c :: rest => if isSlash c then rest else cs
    | [] => []
  let parts := (resolve [] (inner.splitOnP isSlash)).map (Percent.encode pathReserved)
  String.ofList ('/' :: ['/'].intercalate parts)

/-- The number of a port, or nothing where none is given; none if it is no port. -/
def port? (secure : Bool) (cs : List Char) : Option (Option Nat) := do
  let n ← Text.valueOfDigits? 10 cs
  if 65536 ≤ n then none
  else return if cs.isEmpty || n = (if secure then 443 else 80) then none else some n

/-- What stands behind the last `@`. -/
def dropUser (cs : List Char) : List Char :=
  (cs.reverse.takeWhile (· ≠ '@')).reverse

/-- A host and the port behind it. A colon in brackets belongs to the host. -/
def splitPort (inBrackets : Bool) : List Char → List Char × List Char
  | [] => ([], [])
  | c :: rest =>
    if c == ':' && !inBrackets then ([], rest)
    else
      let (host, port) := splitPort (c == '[' || (inBrackets && c != ']')) rest
      (c :: host, port)

/-- The scheme of an address and the rest behind its slashes. -/
def splitScheme? (cs : List Char) : Option (Bool × List Char) :=
  let (scheme, rest) := cs.span (· ≠ ':')
  match rest with
  | [] => none
  | _ :: rest =>
    match Text.lowerAscii (String.ofList scheme) with
    | "http" => some (false, rest.dropWhile isSlash)
    | "https" => some (true, rest.dropWhile isSlash)
    | _ => none

/-- What stands behind a mark, encoded, if the mark is there. -/
def behindMark? (reserved : List Char) : List Char → Option String
  | [] => none
  | _ :: rest => some (String.ofList (Percent.encode reserved rest))

def isEdgeBlank (c : Char) : Bool :=
  c.toNat ≤ 0x20

def ofText? (text : String) : Option Url := do
  let cs := ((text.toList.dropWhile isEdgeBlank).reverse.dropWhile isEdgeBlank).reverse
  let cs := cs.filter fun c => c != '\t' && c != '\n' && c != '\r'
  let (secure, rest) ← splitScheme? cs
  let (authority, rest) := rest.span (!endsAuthority ·)
  let (host, port) := splitPort false (dropUser authority)
  let host ← Host.ofText? host
  let port ← port? secure port
  let (rest, fragment) := rest.span (· ≠ '#')
  let (path, query) := rest.span (· ≠ '?')
  return {
    secure, host, port
    path := pathText path
    query := behindMark? queryReserved query
    fragment := behindMark? fragmentReserved fragment }

/-- The path and the query of an address, as a request names them. -/
def target (u : Url) : String :=
  match u.query with
  | some q => u.path ++ "?" ++ q
  | none => u.path

def text (u : Url) : String :=
  let scheme := if u.secure then "https://" else "http://"
  let port := match u.port with
    | some n => ":" ++ String.ofList (Decimal.digitText n)
    | none => ""
  let fragment := match u.fragment with
    | some f => "#" ++ f
    | none => ""
  scheme ++ u.host.text ++ port ++ u.target ++ fragment

/-- Characters that a domain name may have but no request can name. -/
def unsendable : List Char := ['"', '\x60', '\x7b', '\x7d']

/-- Whether a request can name the address: it has at most 65534 bytes. -/
def isSendable (u : Url) : Bool :=
  u.text.utf8ByteSize ≤ 65534 && !u.host.text.toList.any unsendable.contains

end Url

end CloudGraph.Web

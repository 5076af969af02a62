import CloudGraph.Catalog.Kind
import CloudGraph.Json.Basic
import CloudGraph.Text.Blank

/-!
# Configuration and its views

A node carries an open configuration: any keys, any values. The analyses read it through a
`View`, which belongs to a family of components and answers only the settings of that family. A
value of the wrong type reads as if it were not there.
-/

namespace CloudGraph

/-- An open bag of settings. -/
abbrev Configuration := SortedMap Json

namespace Configuration

def flag? (bag : Configuration) (key : String) : Option Bool :=
  (bag.get? key).bind Json.asBool?

def integer? (bag : Configuration) (key : String) : Option Int :=
  (bag.get? key).bind Json.asInt64?

/-- The text under a key, unless it is blank. -/
def text? (bag : Configuration) (key : String) : Option String :=
  ((bag.get? key).bind Json.asText?).filter fun s => !Text.isBlankText s

/-- The boolean under the first key that has one. -/
def firstFlag? (bag : Configuration) (keys : List String) : Option Bool :=
  keys.findSome? bag.flag?

def firstText? (bag : Configuration) (keys : List String) : Option String :=
  keys.findSome? bag.text?

end Configuration

/-- The yes-or-no settings that rules look at. -/
inductive Flag where
  | encryption | publicAccess | tls | highAvailability | auditLogging | versioning
deriving DecidableEq, Repr

namespace Flag

def all : List Flag :=
  [.encryption, .publicAccess, .tls, .highAvailability, .auditLogging, .versioning]

/-- The key that a setting is written under. -/
def name : Flag → String
  | .encryption => "encryption"
  | .publicAccess => "publicAccess"
  | .tls => "tls"
  | .highAvailability => "highAvailability"
  | .auditLogging => "auditLogging"
  | .versioning => "versioning"

/-- The keys that a setting is read from, the canonical one first. -/
def keys (flag : Flag) : List String :=
  flag.name :: match flag with
    | .encryption => ["encrypted"]
    | .publicAccess => ["public"]
    | .tls => ["https"]
    | .highAvailability => ["replication", "multiAz"]
    | .auditLogging => []
    | .versioning => []

def ofName? (name : String) : Option Flag :=
  all.find? (·.name == name)

end Flag

def regionKeys : List String := ["region", "location"]

def sizeKeys : List String := ["instanceSize", "instanceType", "vmSize", "machineType", "sku"]

def replicasKey : String := "replicas"

/-- A family of components that share their settings. -/
inductive Family where
  | compute | storage | network | database | generic
deriving DecidableEq, Repr

namespace Family

def name : Family → String
  | .compute => "compute"
  | .storage => "storage"
  | .network => "network"
  | .database => "database"
  | .generic => "generic"

def ofCategory : Category → Family
  | .compute => .compute
  | .storage => .storage
  | .network => .network
  | .database => .database
  | _ => .generic

/-- The yes-or-no settings that components of the family have. -/
def flags : Family → List Flag
  | .compute => [.encryption, .publicAccess]
  | .storage => [.encryption, .publicAccess, .versioning]
  | .network => [.tls, .publicAccess]
  | .database => [.encryption, .publicAccess, .highAvailability, .auditLogging]
  | .generic => Flag.all

/-- Whether components of the family run in copies of a chosen size. -/
def isSized : Family → Bool
  | .compute | .database | .generic => true
  | .storage | .network => false

end Family

/-- A configuration as one family of components reads it. -/
structure View where
  family : Family
  bag : Configuration

namespace View

def ofCategory (category : Category) (bag : Configuration) : View :=
  ⟨.ofCategory category, bag⟩

def flag? (v : View) (flag : Flag) : Option Bool :=
  if v.family.flags.contains flag then v.bag.firstFlag? flag.keys else none

/-- The number of copies; one unless a positive number is set. -/
def replicas (v : View) : Int :=
  if v.family.isSized then
    match v.bag.integer? replicasKey with
    | some n => if 0 < n then n else 1
    | none => 1
  else 1

def region? (v : View) : Option String :=
  v.bag.firstText? regionKeys

def instanceSize? (v : View) : Option String :=
  if v.family.isSized then v.bag.firstText? sizeKeys else none

end View

end CloudGraph

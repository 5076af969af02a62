import CloudGraph.Text.Casing

/-!
# Providers and categories

The vendor a component belongs to and the broad kind of component it is. Both have a catch-all,
which a name that is not known is read as in a document; `Provider.parse?` is the strict reading
of a name that a user typed.
-/

namespace CloudGraph

inductive Provider where
  | aws | azure | gcp | generic
deriving DecidableEq, Repr

namespace Provider

def all : List Provider := [.aws, .azure, .gcp, .generic]

def name : Provider → String
  | .aws => "aws"
  | .azure => "azure"
  | .gcp => "gcp"
  | .generic => "generic"

/-- The provider of a name in a document. -/
def ofName (name : String) : Provider :=
  (all.find? (·.name == name)).getD .generic

/-- The provider of a lower-case name that a user typed. -/
def ofTyped? (name : String) : Option Provider :=
  if name == "google" then some .gcp else all.find? (·.name == name)

end Provider

/-- The broad kind of a component. -/
inductive Category where
  | compute | storage | database | network | security
  | monitoring | integration | frontend | container | other
deriving DecidableEq, Repr

namespace Category

def all : List Category := [
  .compute, .storage, .database, .network, .security,
  .monitoring, .integration, .frontend, .container, .other]

def name : Category → String
  | .compute => "compute"
  | .storage => "storage"
  | .database => "database"
  | .network => "network"
  | .security => "security"
  | .monitoring => "monitoring"
  | .integration => "integration"
  | .frontend => "frontend"
  | .container => "container"
  | .other => "other"

/-- The category of a name in a document. -/
def ofName (name : String) : Category :=
  (all.find? (·.name == name)).getD .other

end Category

end CloudGraph

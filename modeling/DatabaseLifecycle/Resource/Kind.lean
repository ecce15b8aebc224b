import DatabaseLifecycle.Resource.Database
import DatabaseLifecycle.Resource.Pod
import DatabaseLifecycle.Resource.Secret

/-! The kinds of records that the cluster keeps, with what is common to all of them. -/

namespace DatabaseLifecycle

/-- A network service. Workflows only delete services, so nothing but its metadata is kept. -/
structure Service where
  /-- What the service says about itself. -/
  metadata : Metadata := {}
  deriving Inhabited

namespace Service

/-- The name of the kind. -/
def kindName : String := "Service"

/-- A service as it is read. -/
def read? {ν : Type} [Source ν] (value : ν) : Option Service := do
  let record ← Record.lenient? value
  if record.always "apiVersion" "v1" && record.always "kind" kindName then
    return { metadata := (← record.last? "metadata" Metadata.read?).getD {} }
  else none

/-- A service as it is written. -/
def write (service : Service) : Document :=
  .ofFields [
    ("apiVersion", some (.text "v1")),
    ("kind", some (.text kindName)),
    ("metadata", some service.metadata.write)]

end Service

/-- The kinds of records. -/
inductive Kind where
  /-- Credential records. -/
  | secret
  /-- Server registrations. -/
  | server
  /-- Database records. -/
  | database
  /-- Workloads. -/
  | pod
  /-- Network services. -/
  | service
  deriving DecidableEq, Repr, Inhabited

namespace Kind

/-- The records of a kind. -/
@[reducible] def Record : Kind → Type
  | secret => Secret
  | server => Server
  | database => Database
  | pod => Pod
  | service => Service

/-- All kinds. -/
def all : List Kind := [secret, server, database, pod, service]

/-- The name of the kind. -/
def name : Kind → String
  | secret => Secret.kindName
  | server => Server.kindName
  | database => Database.kindName
  | pod => Pod.kindName
  | service => Service.kindName

/-- The kind with a name. -/
def ofName? (name : String) : Option Kind := all.find? (·.name == name)

/-- The word for the kind in the names of operations. -/
def word : Kind → String
  | secret => "secret"
  | server => "server"
  | database => "database"
  | pod => "pod"
  | service => "service"

/-- The version of the form of the kind's records, with the group that defines it. -/
def version : Kind → String
  | server | database => customVersion
  | secret | pod | service => "v1"

/-- The word for the kind's records in paths. -/
def plural : Kind → String
  | secret => "secrets"
  | server => "controlplaneservers"
  | database => "databases"
  | pod => "pods"
  | service => "services"

/-- What a record says about itself. -/
def metadata : (kind : Kind) → kind.Record → Metadata
  | secret, record => record.metadata
  | server, record => record.metadata
  | database, record => record.metadata
  | pod, record => record.metadata
  | service, record => record.metadata

/-- A record as it is read. -/
def read? {ν : Type} [Source ν] : (kind : Kind) → ν → Option kind.Record
  | secret, value => Secret.read? value
  | server, value => Server.read? value
  | database, value => Database.read? value
  | pod, value => Pod.read? value
  | service, value => Service.read? value

/-- A record as it is written. -/
def write : (kind : Kind) → kind.Record → Document
  | secret, record => record.write
  | server, record => record.write
  | database, record => record.write
  | pod, record => record.write
  | service, record => record.write

end Kind

end DatabaseLifecycle

import DatabaseLifecycle.Resource.Kind
import DatabaseLifecycle.Yaml.Writer

/-!
The definitions that make a cluster keep server registrations and database records, as YAML.
-/

namespace DatabaseLifecycle.Manifests

/-- An object whose fields stand in increasing order of their keys. -/
def group (fields : List (String × Document)) : Document := Document.sorted (.object fields)

/-- A list of texts. -/
def texts (values : List String) : Document := .list (values.map .text)

/-- What is said of one field. -/
structure Field where
  /-- The key of the field. -/
  key : String
  /-- What the field is for, and what may stand in it. -/
  rules : List (String × Document)
  /-- Whether it must be given. -/
  required : Bool := false

/-- The field, which must be given. -/
def Field.asRequired (field : Field) : Field := { field with required := true }

/-- The field, which may be null. -/
def Field.asNullable (field : Field) : Field :=
  { field with rules := ("nullable", .bool true) :: field.rules }

/-- The field with a value that counts when it is not given. -/
def Field.withDefault (field : Field) (value : Document) : Field :=
  { field with rules := ("default", value) :: field.rules }

/-- A field of some type. -/
def typed (type key description : String) : Field :=
  ⟨key, [("description", .text description), ("type", .text type)], false⟩

/-- A text. -/
def text (key description : String) : Field := typed "string" key description

/-- A text that is empty when it is not given. -/
def optionalText (key description : String) : Field :=
  (text key description).withDefault (.text "")

/-- A number without sign that is zero when it is not given. -/
def number (key description : String) : Field :=
  let field := (typed "integer" key description).withDefault (.integer 0)
  { field with
    rules := ("format", .text "uint32") :: ("minimum", .decimal "0.0") :: field.rules }

/-- A truth value that is false when it is not given. -/
def flag (key description : String) : Field :=
  (typed "boolean" key description).withDefault (.bool false)

/-- A record with these fields. -/
def record (key description : String) (fields : List Field) : Field :=
  let field := typed "object" key description
  let required := (fields.filter (·.required)).map (·.key)
  { field with
    rules := field.rules
      ++ [("properties", group (fields.map fun inner => (inner.key, group inner.rules)))]
      ++ if required.isEmpty then [] else [("required", texts required)] }

/-- One column in listings of the records. -/
def column (name type path : String) : Document :=
  group [("name", .text name), ("type", .text type), ("jsonPath", .text path)]

/-- The definition of a kind. -/
def definition (kind : Kind) (singular shortName : String) (columns : List Document)
    (spec status : Field) : Document :=
  let whole := record "" ("Auto-generated derived type for " ++ kind.name
    ++ "Spec via \x60CustomResource\x60") [spec.asRequired, status.asNullable]
  let version := group [
    ("additionalPrinterColumns", .list columns),
    ("name", .text "v1alpha1"),
    ("schema", .object [("openAPIV3Schema", group (("title", .text kind.name) :: whole.rules))]),
    ("served", .bool true),
    ("storage", .bool true),
    ("subresources", .object [("status", .object [])])]
  group [
    ("apiVersion", .text "apiextensions.k8s.io/v1"),
    ("kind", .text "CustomResourceDefinition"),
    ("metadata", .object [("name", .text (kind.plural ++ ".dbflow.dev"))]),
    ("spec", group [
      ("group", .text "dbflow.dev"),
      ("names", group [
        ("categories", .list []), ("kind", .text kind.name), ("plural", .text kind.plural),
        ("shortNames", texts [shortName]), ("singular", .text singular)]),
      ("scope", .text "Namespaced"),
      ("versions", .list [version])])]

/-- What a server registration may ask for. -/
def serverSpec : Field :=
  record "spec" "Desired state of a ControlPlaneServer" [
    optionalText "server" "Base URL of the control plane REST API",
    (text "credentialSecret"
      "Name of the secret holding \x60username\x60 and \x60password\x60").asRequired,
    flag "skipCertificateVerification" "Accept self-signed control plane certificates",
    (text "tenant" "Tenant to act as, for multi-tenant control planes").asNullable]

/-- What may be known of a registered server. -/
def serverStatus : Field :=
  record "status" "Status of a ControlPlaneServer" [
    optionalText "status" "Connectivity status reported by the operator",
    (text "lastUpdated" "Last time the status was refreshed").asNullable]

/-- What a backup policy may request. -/
def backupPolicy : Field :=
  (record "timeMachine" "Requested backup policy" [
    optionalText "name" "Time machine name",
    optionalText "description" "Free-text description",
    optionalText "slaName" "SLA name; empty or \"NONE\" requests no backup policy",
    optionalText "dailySnapshotTime" "Wall-clock time of the daily snapshot, \x60HH:MM:SS\x60",
    number "snapshotsPerDay" "Number of snapshots taken per day",
    number "logCatchUpFrequency" "Log catch-up frequency in minutes",
    optionalText "weeklySnapshotDay"
      "Day of the week for the weekly snapshot (e.g. \"WEDNESDAY\")",
    number "monthlySnapshotDay" "Day of the month for the monthly snapshot"]).asNullable

/-- The engine of an instance or a clone. -/
def engine : Field := (text "type" "Engine type (e.g. \"postgres\", \"mysql\")").asRequired

/-- What may be asked of a fresh instance. -/
def instanceSpec : Field :=
  record "instance" "Freshly provisioned instance" [
    optionalText "description" "Free-text description",
    optionalText "clusterId" "Compute cluster to provision on; injected from the environment",
    { typed "array" "databaseNames" "Logical databases created inside the instance" with
      rules := [("description", .text "Logical databases created inside the instance"),
        ("items", .object [("type", .text "string")]), ("type", .text "array")] },
    (text "credentialSecret" "Secret holding the database password").asRequired,
    (text "name" "Name of the database instance on the control plane").asRequired,
    number "size" "Storage size in GiB",
    text "timezone" "Timezone of the instance",
    engine,
    backupPolicy]

/-- What may be asked of a clone. -/
def cloneSpec : Field :=
  record "clone" "Clone restored from a snapshot" [
    optionalText "description" "Free-text description",
    optionalText "clusterId" "Compute cluster to clone onto; injected from the environment",
    optionalText "sourceDatabaseId" "Id of the database being cloned",
    optionalText "snapshotId" "Id of the snapshot to restore from",
    (text "credentialSecret" "Secret holding the clone's password").asRequired,
    (text "name" "Name of the clone on the control plane").asRequired,
    text "timezone" "Timezone of the clone",
    engine]

/-- What a database record may ask for: an instance or a clone. -/
def databaseSpec : Field :=
  let field := record "spec" "Desired state of a Database" [
    (text "serverRef" "Name of the ControlPlaneServer this database is managed through").asRequired,
    instanceSpec, cloneSpec]
  let only (mode : String) : Document := .object [("required", texts [mode])]
  { field with rules := ("oneOf", .list (DatabaseMode.keys.map only)) :: field.rules }

/-- What may be known of a database. -/
def databaseStatus : Field :=
  record "status" "Status of a Database, written by the operator from control plane state" [
    optionalText "id" "Control plane id of the instance or clone",
    optionalText "status" "Control plane status string (e.g. \"CREATING\", \"READY\", \"ERROR\")",
    text "dbServerId" "Id of the server VM hosting the database",
    text "ipAddress" "Address the database listens on",
    text "type" "Engine type as reported by the control plane"]

/-- The definition of server registrations. -/
def servers : Document :=
  definition .server "controlplaneserver" "cps"
    [column "Server" "string" ".spec.server", column "Status" "string" ".status.status"]
    serverSpec serverStatus

/-- The definition of database records. -/
def databases : Document :=
  definition .database "database" "db"
    [column "Status" "string" ".status.status", column "Id" "string" ".status.id",
      column "IP" "string" ".status.ipAddress",
      column "Age" "date" ".metadata.creationTimestamp"]
    databaseSpec databaseStatus

/-- Both definitions. -/
def all : String := Yaml.write servers ++ "---\n" ++ Yaml.write databases

end DatabaseLifecycle.Manifests

import DatabaseLifecycle.Error
import DatabaseLifecycle.Resource.Server
import DatabaseLifecycle.Text.Blank

/-!
Database records: either a fresh instance with a backup policy, or a clone restored from a snapshot
of another database.
-/

namespace DatabaseLifecycle

/-- The backup policy that is requested for an instance. -/
structure BackupPolicy where
  /-- The name of the time machine. -/
  name : String := ""
  /-- What the policy is for. -/
  description : String := ""
  /-- The name of the service level. -/
  slaName : String := ""
  /-- The time of day of the daily snapshot. -/
  dailySnapshotTime : String := ""
  /-- How many snapshots are taken a day. -/
  snapshotsPerDay : UInt32 := 0
  /-- How many minutes lie between two copies of the log. -/
  logCatchUpFrequency : UInt32 := 0
  /-- The day of the weekly snapshot. -/
  weeklySnapshotDay : String := ""
  /-- The day of the month of the monthly snapshot. -/
  monthlySnapshotDay : UInt32 := 0
  deriving DecidableEq, Repr, Inhabited

/-- What is asked of a fresh instance. -/
structure InstanceSpec where
  /-- The name on the control plane. -/
  name : String
  /-- What the instance is for. -/
  description : String := ""
  /-- The compute cluster to place it on. -/
  clusterId : String := ""
  /-- The databases created inside it. -/
  databaseNames : List String := []
  /-- The name of the secret with its password. -/
  credentialSecret : String
  /-- The storage size. -/
  size : UInt32 := 0
  /-- The time zone. -/
  timezone : String := ""
  /-- The engine. -/
  type : String
  /-- The requested backup policy. -/
  timeMachine : Option BackupPolicy := none
  deriving DecidableEq, Repr, Inhabited

/-- What is asked of a clone. -/
structure CloneSpec where
  /-- The name on the control plane. -/
  name : String
  /-- What the clone is for. -/
  description : String := ""
  /-- The compute cluster to place it on. -/
  clusterId : String := ""
  /-- The database that is cloned. -/
  sourceDatabaseId : String := ""
  /-- The snapshot that is restored. -/
  snapshotId : String := ""
  /-- The name of the secret with its password. -/
  credentialSecret : String
  /-- The time zone. -/
  timezone : String := ""
  /-- The engine. -/
  type : String
  deriving DecidableEq, Repr, Inhabited

/-- A fresh instance or a clone. -/
inductive DatabaseMode where
  /-- An instance created from nothing. -/
  | fresh (spec : InstanceSpec)
  /-- A clone restored from a snapshot. -/
  | clone (spec : CloneSpec)
  deriving DecidableEq, Repr

/-- What a database record asks for. -/
structure DatabaseSpec where
  /-- The name of the server registration. -/
  serverRef : String
  /-- The instance or clone. -/
  mode : DatabaseMode
  deriving DecidableEq, Repr

/-- What is known of a database. -/
structure DatabaseStatus where
  /-- The control plane's name for it. -/
  id : String := ""
  /-- How far it is. -/
  status : String := ""
  /-- The machine that hosts it. -/
  serverId : String := ""
  /-- The address it listens on. -/
  ipAddress : String := ""
  /-- The engine. -/
  type : String := ""
  deriving DecidableEq, Repr, Inhabited

/-- A database record. -/
structure Database where
  /-- What the record says about itself. -/
  metadata : Metadata
  /-- What it asks for. -/
  spec : DatabaseSpec
  /-- What is known of the database. -/
  status : Option DatabaseStatus := none

/-- A text that is not written when it is empty. -/
def Document.textUnlessEmpty (text : String) : Option Document :=
  if text.isEmpty then none else some (.text text)

/-- A number as it is written. -/
def Document.natural32 (number : UInt32) : Document := .integer number.toNat

namespace BackupPolicy

/-- The names of service levels that ask for no backups. -/
def noBackupNames : List String := ["", "NONE"]

/-- Whether the policy asks for backups at all. -/
def requestsBackups (policy : BackupPolicy) : Bool := !noBackupNames.contains policy.slaName

/-- The declared fields. -/
def declared : List String :=
  ["name", "description", "slaName", "dailySnapshotTime", "snapshotsPerDay", "logCatchUpFrequency",
    "weeklySnapshotDay", "monthlySnapshotDay"]

/-- A policy as it is read. -/
def read? {ν : Type} [Source ν] (value : ν) : Option BackupPolicy := do
  let record ← Record.read? declared value
  return {
    name := ← record.orDefault? "name" "" Source.text?
    description := ← record.orDefault? "description" "" Source.text?
    slaName := ← record.orDefault? "slaName" "" Source.text?
    dailySnapshotTime := ← record.orDefault? "dailySnapshotTime" "" Source.text?
    snapshotsPerDay := ← record.orDefault? "snapshotsPerDay" 0 Source.natural32?
    logCatchUpFrequency := ← record.orDefault? "logCatchUpFrequency" 0 Source.natural32?
    weeklySnapshotDay := ← record.orDefault? "weeklySnapshotDay" "" Source.text?
    monthlySnapshotDay := ← record.orDefault? "monthlySnapshotDay" 0 Source.natural32? }

/-- A policy as it is written. -/
def write (policy : BackupPolicy) : Document :=
  .object [
    ("name", .text policy.name),
    ("description", .text policy.description),
    ("slaName", .text policy.slaName),
    ("dailySnapshotTime", .text policy.dailySnapshotTime),
    ("snapshotsPerDay", .natural32 policy.snapshotsPerDay),
    ("logCatchUpFrequency", .natural32 policy.logCatchUpFrequency),
    ("weeklySnapshotDay", .text policy.weeklySnapshotDay),
    ("monthlySnapshotDay", .natural32 policy.monthlySnapshotDay)]

end BackupPolicy

namespace InstanceSpec

/-- The declared fields. -/
def declared : List String :=
  ["name", "description", "clusterId", "databaseNames", "credentialSecret", "size", "timezone",
    "type", "timeMachine"]

/-- The shape of an instance, which holds a policy. -/
def shape : Shape :=
  .record (declared.map fun name =>
    (name, if name == "timeMachine" then .flat BackupPolicy.declared else .any))

/-- An instance as it is read. -/
def read? {ν : Type} [Source ν] (value : ν) : Option InstanceSpec := do
  let record ← Record.read? declared value
  return {
    name := ← record.required? "name" Source.text?
    description := ← record.orDefault? "description" "" Source.text?
    clusterId := ← record.orDefault? "clusterId" "" Source.text?
    databaseNames := ← record.orDefault? "databaseNames" [] (Source.list? Source.text?)
    credentialSecret := ← record.required? "credentialSecret" Source.text?
    size := ← record.orDefault? "size" 0 Source.natural32?
    timezone := ← record.orDefault? "timezone" "" Source.text?
    type := ← record.required? "type" Source.text?
    timeMachine := ← record.optional? "timeMachine" BackupPolicy.read? }

/-- An instance as it is written. -/
def write (spec : InstanceSpec) : Document :=
  .ofFields [
    ("name", some (.text spec.name)),
    ("description", some (.text spec.description)),
    ("clusterId", some (.text spec.clusterId)),
    ("databaseNames",
      if spec.databaseNames.isEmpty then none else some (.list (spec.databaseNames.map .text))),
    ("credentialSecret", some (.text spec.credentialSecret)),
    ("size", some (.natural32 spec.size)),
    ("timezone", Document.textUnlessEmpty spec.timezone),
    ("type", some (.text spec.type)),
    ("timeMachine", spec.timeMachine.map BackupPolicy.write)]

end InstanceSpec

namespace CloneSpec

/-- The declared fields. -/
def declared : List String :=
  ["name", "description", "clusterId", "sourceDatabaseId", "snapshotId", "credentialSecret",
    "timezone", "type"]

/-- A clone as it is read. -/
def read? {ν : Type} [Source ν] (value : ν) : Option CloneSpec := do
  let record ← Record.read? declared value
  return {
    name := ← record.required? "name" Source.text?
    description := ← record.orDefault? "description" "" Source.text?
    clusterId := ← record.orDefault? "clusterId" "" Source.text?
    sourceDatabaseId := ← record.orDefault? "sourceDatabaseId" "" Source.text?
    snapshotId := ← record.orDefault? "snapshotId" "" Source.text?
    credentialSecret := ← record.required? "credentialSecret" Source.text?
    timezone := ← record.orDefault? "timezone" "" Source.text?
    type := ← record.required? "type" Source.text? }

/-- A clone as it is written. -/
def write (spec : CloneSpec) : Document :=
  .ofFields [
    ("name", some (.text spec.name)),
    ("description", some (.text spec.description)),
    ("clusterId", some (.text spec.clusterId)),
    ("sourceDatabaseId", some (.text spec.sourceDatabaseId)),
    ("snapshotId", some (.text spec.snapshotId)),
    ("credentialSecret", some (.text spec.credentialSecret)),
    ("timezone", Document.textUnlessEmpty spec.timezone),
    ("type", some (.text spec.type))]

/-- The fields that a clone cannot be submitted without and that hold nothing but blanks. -/
def missingFields (spec : CloneSpec) : List String :=
  ([("sourceDatabaseId", spec.sourceDatabaseId), ("clusterId", spec.clusterId),
    ("snapshotId", spec.snapshotId)].filter fun field => Text.isBlankText field.2).map (·.1)

/-- Refuses a clone that cannot be submitted, in the name of its record. -/
def validate (spec : CloneSpec) (resource : String) : Except Error Unit :=
  if spec.missingFields.isEmpty then .ok ()
  else .error (.validation resource
    ("clone requires non-empty " ++ ", ".intercalate spec.missingFields))

end CloneSpec

namespace DatabaseMode

/-- The keys under which a mode is given. -/
def keys : List String := ["instance", "clone"]

/-- The shape of what stands under a key of a specification. -/
def shape (key : String) : Shape :=
  if key == "instance" then InstanceSpec.shape
  else if key == "clone" then .flat CloneSpec.declared
  else .any

/-- What stands under a key of a specification, kept until the mode is known. -/
def kept? {ν : Type} [Source ν] (around : Nat) (key : String) (value : ν) : Option Document :=
  Source.document? around (shape key) value

/-- The mode given under a key. -/
def read? (key : String) (value : Document) : Option DatabaseMode :=
  if key == "instance" then (InstanceSpec.read? value).map fresh
  else (CloneSpec.read? value).map clone

end DatabaseMode

namespace DatabaseSpec

/-- The specification as it is read, the last of these lists and objects that are open around its
fields. Of the keys that name a mode the first counts. -/
def readWithin? {ν : Type} [Source ν] (around : Nat) (value : ν) : Option DatabaseSpec := do
  let entries ← Source.fields? value
  let record ← Record.ofEntries? ["serverRef"] entries
  let serverRef ← record.required? "serverRef" Source.text?
  let others ← (entries.filter (·.1 != "serverRef")).mapM fun entry =>
    (DatabaseMode.kept? around entry.1 entry.2).map (entry.1, ·)
  let (key, mode) ← others.find? fun entry => DatabaseMode.keys.contains entry.1
  return { serverRef, mode := ← DatabaseMode.read? key mode }

/-- The specification as it is read by itself. -/
def read? {ν : Type} [Source ν] (value : ν) : Option DatabaseSpec := readWithin? 1 value

/-- The specification as it is written. -/
def write (spec : DatabaseSpec) : Document :=
  .object [
    ("serverRef", .text spec.serverRef),
    match spec.mode with
    | .fresh spec => ("instance", spec.write)
    | .clone spec => ("clone", spec.write)]

/-- Whether the database is a clone. -/
def isClone (spec : DatabaseSpec) : Bool :=
  match spec.mode with
  | .clone _ => true
  | .fresh _ => false

/-- The name on the control plane. -/
def databaseName (spec : DatabaseSpec) : String :=
  match spec.mode with
  | .fresh fresh => fresh.name
  | .clone clone => clone.name

/-- The compute cluster the database is placed on. -/
def clusterId (spec : DatabaseSpec) : String :=
  match spec.mode with
  | .fresh fresh => fresh.clusterId
  | .clone clone => clone.clusterId

/-- The specification with another compute cluster. -/
def withClusterId (spec : DatabaseSpec) (clusterId : String) : DatabaseSpec :=
  { spec with
    mode := match spec.mode with
      | .fresh fresh => .fresh { fresh with clusterId }
      | .clone clone => .clone { clone with clusterId } }

/-- The requested backup policy; a clone has none. -/
def backupPolicy? (spec : DatabaseSpec) : Option BackupPolicy :=
  match spec.mode with
  | .fresh fresh => fresh.timeMachine
  | .clone _ => none

end DatabaseSpec

namespace DatabaseStatus

/-- The status as it is read. -/
def read? {ν : Type} [Source ν] (value : ν) : Option DatabaseStatus := do
  let record ← Record.read? ["id", "status", "dbServerId", "ipAddress", "type"] value
  return {
    id := ← record.orDefault? "id" "" Source.text?
    status := ← record.orDefault? "status" "" Source.text?
    serverId := ← record.orDefault? "dbServerId" "" Source.text?
    ipAddress := ← record.orDefault? "ipAddress" "" Source.text?
    type := ← record.orDefault? "type" "" Source.text? }

/-- The status as it is written. -/
def write (status : DatabaseStatus) : Document :=
  .ofFields [
    ("id", some (.text status.id)),
    ("status", some (.text status.status)),
    ("dbServerId", Document.textUnlessEmpty status.serverId),
    ("ipAddress", Document.textUnlessEmpty status.ipAddress),
    ("type", Document.textUnlessEmpty status.type)]

end DatabaseStatus

namespace Database

/-- The name of the kind. -/
def kindName : String := "Database"

/-- The status of a database that can be used. -/
def readyStatus : String := "READY"

/-- What is added to a database's name to name the service that exposes it. -/
def serviceSuffix : String := "-svc"

/-- The name of the service that exposes a database. -/
def serviceName (databaseName : String) : String := databaseName ++ serviceSuffix

/-- A database record as it is read; its specification lies one object deeper than by itself. -/
def read? {ν : Type} [Source ν] (value : ν) : Option Database :=
  Record.readResource? Database.mk (DatabaseSpec.readWithin? 2) DatabaseStatus.read? value

/-- A database record as it is written. -/
def write (database : Database) : Document :=
  .ofFields [
    ("apiVersion", some (.text customVersion)),
    ("kind", some (.text kindName)),
    ("metadata", some database.metadata.write),
    ("spec", some database.spec.write),
    ("status", database.status.map DatabaseStatus.write)]

/-- The namespace of the record. -/
def namespaceName (database : Database) : String := database.metadata.namespaceOr defaultNamespace

/-- The status last reported, or nothing before the first report. -/
def currentStatus (database : Database) : String :=
  (database.status.map DatabaseStatus.status).getD ""

/-- The control plane's name for the database, or nothing before it has one. -/
def controlPlaneId (database : Database) : String := (database.status.map DatabaseStatus.id).getD ""

/-- Whether the database can be used. -/
def isReady (database : Database) : Bool := database.currentStatus == readyStatus

end Database

end DatabaseLifecycle

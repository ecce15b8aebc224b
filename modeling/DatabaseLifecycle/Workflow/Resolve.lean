import DatabaseLifecycle.Resource.Bundle
import DatabaseLifecycle.Schedule
import DatabaseLifecycle.Workflow.Call

/-!
Resolution of a provisioned database: from the records in the cluster to the control plane's view of
it, and the check of its backup policy. The bundle only says which records to look at.
-/

namespace DatabaseLifecycle.Workflow

/-- A failure to fetch a secret, as a fault of the credentials that it should hold. -/
def blameSecret {α : Type} (secret : String) (result : Except Error α) : Except Error α :=
  result.mapError fun error => .invalidCredential secret error.message

/-- The credentials that a server registration and its secret make together. -/
def credentialsOf (server : Server) (secret : Secret) : Except Error Credentials := do
  let credentials ← Credentials.ofSecret server.spec.credentialSecret secret.values
    server.spec.server
  return (credentials.withTenant server.spec.tenant).withInsecure
    server.spec.skipCertificateVerification

/-- The current database record, after connecting to its control plane. The secret is looked for
next to the server registration. -/
def connectRecords (bundle : Bundle) : ExceptT Error Workflow Database := do
  match bundle.server, bundle.database with
  | some server, some database =>
    let namespaceName := bundle.namespaceName
    let serverNamespace := server.metadata.namespaceOr namespaceName
    let server ← ExceptT.mk (fetch .server serverNamespace server.metadata.effectiveName)
    let record ← ExceptT.mk (fetch .database namespaceName database.metadata.effectiveName)
    let secretName := server.spec.credentialSecret
    let secret ← ExceptT.mk do
      return blameSecret secretName (← fetch .secret serverNamespace secretName)
    let credentials ← ofResult (credentialsOf server secret)
    ExceptT.mk (connect credentials)
    return record
  | _, _ =>
    throw (.configuration "resolving a database needs both a server and a database template")

/-- Connects to the control plane of the bundle's database and gives its current record. -/
def resolve (bundle : Bundle) : Workflow (Except Error Database) := do
  logged "resolve" (← (connectRecords bundle).run)

/-- The lookup that shows the control plane's view of a record: as a clone or as an instance. -/
def statusLookup (record : Database) : ExceptT Error Workflow ManagedDatabase :=
  let id := record.controlPlaneId
  if id.isEmpty then
    throw (.notFound "control plane id for Database" record.metadata.effectiveName)
  else if record.spec.isClone then ExceptT.mk (lookup (.clone id))
  else ExceptT.mk (lookup (.database id))

/-- The control plane's view of the bundle's database. -/
def resolveStatus (bundle : Bundle) : Workflow (Except Error ManagedDatabase) := do
  match ← resolve bundle with
  | .error error => return .error error
  | .ok record => logged "resolve_status" (← (statusLookup record).run)

/-- The backup policy that the bundle's database requests, if it requests one. -/
def requestedPolicy? (bundle : Bundle) : Option BackupPolicy :=
  (bundle.database.bind fun database => database.spec.backupPolicy?).filter (·.requestsBackups)

/-- Compares the reported backup policy of a record with the requested one. -/
def comparePolicy (requested : BackupPolicy) (record : Database) : ExceptT Error Workflow Unit := do
  let status ← statusLookup record
  if status.timeMachineId.isEmpty then throw (.notFound "time machine of database" status.name)
  else
    let machine ← ExceptT.mk (lookup (.timeMachine status.timeMachineId))
    ofResult (requested.validate machine.policy)

/-- Checks the reported backup policy of the bundle's database, if it requests one. -/
def verifyPolicy (bundle : Bundle) : Workflow (Except Error Unit) :=
  match requestedPolicy? bundle with
  | none => return .ok ()
  | some requested => do
    match ← resolve bundle with
    | .error error => return .error error
    | .ok record => logged "verify_time_machine" (← (comparePolicy requested record).run)

end DatabaseLifecycle.Workflow

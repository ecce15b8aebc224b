import DatabaseLifecycle.Poll
import DatabaseLifecycle.Resource.Bundle
import DatabaseLifecycle.Workflow.Call

/-!
Deprovisioning: every record of a bundle is deleted, whatever became of the others, and the database
is waited for until it is gone.
-/

namespace DatabaseLifecycle.Workflow

/-- Deletes a record, noting the failure in the report. -/
def remove (report : Report) (step : Step) (kind : Kind) (namespaceName name : String) :
    Workflow Report := do
  note report step ("delete_" ++ kind.word) (← delete kind namespaceName name)

/-- Deletes a record if it is present in the bundle. -/
def removePresent (report : Report) (step : Step) (kind : Kind) (fallback : String)
    (record : Option kind.Record) : Workflow Report :=
  match record with
  | none => return report.skipped step
  | some record =>
    let metadata := kind.metadata record
    remove report step kind (metadata.namespaceOr fallback) metadata.effectiveName

/-- Whether a fetched record is one that is already gone: it has no name of its own. -/
def isNameless (metadata : Metadata) : Bool := (metadata.name.getD "").isEmpty

/-- Fetches a deleted database until it is gone: until fetching it fails, for whatever cause, or
finds a record without a name. -/
def awaitDeleted (budget : Budget) (namespaceName name : String) :
    Workflow (Except Error Unit) := do
  let (_, outcome) ← Poll.whileFailing sleep budget (fun _ => do
    match ← fetch .database namespaceName name with
    | .error _ => return ((), .ok ())
    | .ok fetched =>
      if isNameless fetched.metadata then return ((), .ok ())
      else return ((), .error (.internal "wait_for_database_deleted"
        ("Database '" ++ name ++ "' still present, status '" ++ fetched.currentStatus ++ "'")))) ()
  return outcome

/-- Deletes a database with the service that exposes it, and waits until it is gone. -/
def removeDatabase (budget : Budget) (fallback : String) (report : Report) (database : Database) :
    Workflow Report := do
  let namespaceName := database.metadata.namespaceOr fallback
  let name := database.metadata.effectiveName
  let report ← remove report .service .service namespaceName (Database.serviceName name)
  let report ← remove report .database .database namespaceName name
  noteHard report .databaseDeleted "wait_for_database_deleted"
    (← awaitDeleted budget namespaceName name)

/-- Deletes the database of a bundle, if it has one. -/
def removeBundleDatabase (budget : Budget) (fallback : String) (report : Report)
    (database : Option Database) : Workflow Report :=
  match database with
  | some database => removeDatabase budget fallback report database
  | none => return ((report.skipped .service).skipped .database).skipped .databaseDeleted

/-- Deletes the records of a bundle. -/
def deprovisionPresent (timings : Timings) (bundle : Bundle) : Workflow Report := do
  let fallback := bundle.namespaceName
  let report ← removeBundleDatabase timings.databaseDeleted fallback {} bundle.database
  let report ← removePresent report .server .server fallback bundle.server
  let report ← removePresent report .serverSecret .secret fallback bundle.serverSecret
  let report ← removePresent report .databaseSecret .secret fallback bundle.databaseSecret
  removePresent report .workload .pod fallback bundle.workload

/-- Deletes the records of a bundle, unless it is empty. -/
def deprovision (timings : Timings) (bundle : Bundle) : Workflow (Except Error Report) :=
  if bundle.isEmpty then do
    let error ← logFailure "deprovision" (.configuration "resource bundle has no resources")
    return .error error
  else do return .ok (← deprovisionPresent timings bundle)

end DatabaseLifecycle.Workflow

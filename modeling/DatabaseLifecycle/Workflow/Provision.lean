import DatabaseLifecycle.Poll
import DatabaseLifecycle.Workflow.Call
import DatabaseLifecycle.Workflow.Preparation

/-!
Provisioning: every record of a bundle is submitted, whatever became of the others, and then the
database and the workload are waited for.
-/

namespace DatabaseLifecycle.Workflow

/-- Submits a record if it is present. -/
def submit (report : Report) (step : Step) (kind : Kind) (record : Option kind.Record) :
    Workflow Report :=
  match record with
  | none => return report.skipped step
  | some record => do note report step ("create_" ++ kind.word) (← create kind record)

/-- Submits the records of a bundle, those that others depend on first. -/
def submitAll (bundle : Bundle) : Workflow Report := do
  let report ← submit {} .databaseSecret .secret bundle.databaseSecret
  let report ← submit report .serverSecret .secret bundle.serverSecret
  let report ← submit report .server .server bundle.server
  let report ← submit report .database .database bundle.database
  submit report .workload .pod bundle.workload

/-- Fetches a record until its status is the awaited one. What was fetched last is left, or what was
submitted if nothing could be fetched. -/
def awaitStatus (kind : Kind) (status : kind.Record → String) (target : String) (budget : Budget)
    (namespaceName name : String) (submitted : kind.Record) :
    Workflow (kind.Record × Except Error Unit) :=
  Poll.whileRetryable sleep budget Error.isRetryable (fun current => do
    match ← fetch kind namespaceName name with
    | .ok fetched =>
      if status fetched == target then return (fetched, .ok ())
      else return (fetched, .error (.notReady kind.name name (status fetched)))
    | .error error => return (current, .error error)) submitted

/-- Waits for a database to be ready. -/
def awaitDatabase (timings : Timings) (database : Database) :
    Workflow (Database × Except Error Unit) :=
  awaitStatus .database Database.currentStatus Database.readyStatus timings.databaseReady
    database.namespaceName database.metadata.effectiveName database

/-- Waits for a workload to run. -/
def awaitWorkload (timings : Timings) (pod : Pod) : Workflow (Pod × Except Error Unit) :=
  awaitStatus .pod Pod.phase Pod.runningPhase timings.workloadRunning
    (pod.metadata.namespaceOr defaultNamespace) pod.metadata.effectiveName pod

/-- Waits for the database of a bundle, if it has one, and leaves it as last fetched. -/
def awaitBundleDatabase (timings : Timings) (report : Report) (bundle : Bundle) :
    Workflow (Report × Bundle) :=
  match bundle.database with
  | none => return (report.skipped .databaseReady, bundle)
  | some database => do
    let (database, outcome) ← awaitDatabase timings database
    let report ← noteHard report .databaseReady "wait_for_database_ready" outcome
    return (report, { bundle with database := some database })

/-- Waits for the workload of a bundle, if it has one, and leaves it as last fetched. -/
def awaitBundleWorkload (timings : Timings) (report : Report) (bundle : Bundle) :
    Workflow (Report × Bundle) :=
  match bundle.workload with
  | none => return (report.skipped .workloadRunning, bundle)
  | some pod => do
    let (pod, outcome) ← awaitWorkload timings pod
    let report ← noteHard report .workloadRunning "wait_for_workload_running" outcome
    return (report, { bundle with workload := some pod })

/-- Submits a prepared bundle and waits for it. -/
def provisionPrepared (timings : Timings) (bundle : Bundle) : Workflow (Report × Bundle) := do
  let report ← submitAll bundle
  let (report, bundle) ← awaitBundleDatabase timings report bundle
  awaitBundleWorkload timings report bundle

/-- Prepares a bundle, submits it and waits for it. Nothing is submitted if the bundle is empty or
cannot be prepared; after that all failures go into the report. -/
def provision (environment : Environment) (timings : Timings) (bundle : Bundle) :
    Workflow (Except Error Report × Bundle) :=
  if bundle.isEmpty then do
    let error ← logFailure "provision" (.configuration "resource bundle has no resources")
    return (.error error, bundle)
  else
    match bundle.prepare environment with
    | (.error error, bundle) => do return (.error (← logFailure "provision" error), bundle)
    | (.ok (), bundle) => do
      let (report, bundle) ← provisionPrepared timings bundle
      return (.ok report, bundle)

end DatabaseLifecycle.Workflow

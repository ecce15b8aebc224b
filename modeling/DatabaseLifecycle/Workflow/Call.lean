import DatabaseLifecycle.ControlPlane.Credentials
import DatabaseLifecycle.ControlPlane.Lookup
import DatabaseLifecycle.Program
import DatabaseLifecycle.Report
import DatabaseLifecycle.Resource.Kind

/-!
The calls that workflows make: records are created, fetched and deleted in the cluster, things are
looked up on a control plane, time passes, and failures are logged.
-/

namespace DatabaseLifecycle

/-- A call of a workflow. -/
inductive Call where
  /-- A record is submitted. -/
  | create (kind : Kind) (record : kind.Record)
  /-- A record is fetched. -/
  | fetch (kind : Kind) (namespaceName name : String)
  /-- A record is deleted; one that does not exist counts as deleted. -/
  | delete (kind : Kind) (namespaceName name : String)
  /-- Later lookups go to the control plane that these credentials are for. -/
  | connect (credentials : Credentials)
  /-- Something is looked up. -/
  | lookup (wanted : Lookup)
  /-- Some milliseconds pass. -/
  | sleep (milliseconds : Nat)
  /-- The line of a failure is logged. -/
  | log (line : String)

/-- The reply to a call. -/
@[reducible] def Call.Reply : Call → Type
  | create kind _ => Except Error kind.Record
  | fetch kind _ _ => Except Error kind.Record
  | delete _ _ _ => Except Error Unit
  | connect _ => Except Error Unit
  | lookup wanted => Except Error wanted.Found
  | sleep _ => Unit
  | log _ => Unit

/-- The interface of workflows. -/
@[reducible] def Call.interface : Interface := ⟨Call, Call.Reply⟩

/-- A program that makes the calls of workflows. -/
abbrev Workflow (α : Type) : Type := Program Call.interface α

namespace Workflow

/-- Makes one call. -/
def call (call : Call) : Workflow call.Reply := Program.ask call Program.done

/-- Submits a record. -/
def create (kind : Kind) (record : kind.Record) : Workflow (Except Error kind.Record) :=
  call (.create kind record)

/-- Fetches a record. -/
def fetch (kind : Kind) (namespaceName name : String) : Workflow (Except Error kind.Record) :=
  call (.fetch kind namespaceName name)

/-- Deletes a record. -/
def delete (kind : Kind) (namespaceName name : String) : Workflow (Except Error Unit) :=
  call (.delete kind namespaceName name)

/-- Sends later lookups to the control plane that these credentials are for. -/
def connect (credentials : Credentials) : Workflow (Except Error Unit) :=
  call (.connect credentials)

/-- Looks something up. -/
def lookup (wanted : Lookup) : Workflow (Except Error wanted.Found) := call (.lookup wanted)

/-- Lets some milliseconds pass. -/
def sleep (milliseconds : Nat) : Workflow Unit := call (.sleep milliseconds)

/-- A result as the outcome of a workflow. -/
def ofResult {α : Type} (result : Except Error α) : ExceptT Error Workflow α :=
  ExceptT.mk (pure result)

/-- Logs the failure of an operation and hands its cause on. -/
def logFailure (operation : String) (error : Error) : Workflow Error := do
  call (.log (error.failureLine operation))
  return error

/-- A result whose failure is logged. -/
def logged {α : Type} (operation : String) (result : Except Error α) :
    Workflow (Except Error α) :=
  match result with
  | .ok value => return .ok value
  | .error error => return .error (← logFailure operation error)

/-- The report with a step whose failure lets the run go on. -/
def note {α : Type} (report : Report) (step : Step) (operation : String)
    (result : Except Error α) : Workflow Report :=
  match result with
  | .ok _ => return report.completed step
  | .error error => return report.failed step (← logFailure operation error).message

/-- The report with a step whose failure fails the run. -/
def noteHard (report : Report) (step : Step) (operation : String) (result : Except Error Unit) :
    Workflow Report :=
  match result with
  | .ok () => return report.completed step
  | .error error => return report.failedHard step (← logFailure operation error)

end Workflow

end DatabaseLifecycle

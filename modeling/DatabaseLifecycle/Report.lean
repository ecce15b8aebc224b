import DatabaseLifecycle.Error
import DatabaseLifecycle.Text.Padded

/-!
Reports: what became of each step of a workflow, in order, and the error that fails the whole run.
-/

namespace DatabaseLifecycle

/-- The steps of a workflow. -/
inductive Step where
  /-- The database's credential record. -/
  | databaseSecret
  /-- The control plane's credential record. -/
  | serverSecret
  /-- The registration of the control plane. -/
  | server
  /-- The database record. -/
  | database
  /-- The workload that verifies the database. -/
  | workload
  /-- The service that exposes the database. -/
  | service
  /-- The wait for the database to be ready. -/
  | databaseReady
  /-- The wait for the workload to run. -/
  | workloadRunning
  /-- The wait for the deleted database to be gone. -/
  | databaseDeleted
  deriving DecidableEq, Repr, Inhabited

namespace Step

/-- All steps. -/
def all : List Step :=
  [databaseSecret, serverSecret, server, database, workload, service, databaseReady,
    workloadRunning, databaseDeleted]

/-- The name of a step in a report. -/
def name : Step → String
  | databaseSecret => "database-secret"
  | serverSecret => "server-secret"
  | server => "server"
  | database => "database"
  | workload => "app-pod"
  | service => "service"
  | databaseReady => "wait-database-ready"
  | workloadRunning => "wait-app-pod-running"
  | databaseDeleted => "wait-database-deleted"

/-- The step with a name. -/
def ofName? (name : String) : Option Step := all.find? (·.name == name)

end Step

/-- What became of a step. -/
inductive Outcome where
  /-- It succeeded. -/
  | completed
  /-- There was nothing to do. -/
  | skipped
  /-- It failed, with this wording of the cause. -/
  | failed (message : String)
  deriving DecidableEq, Repr, Inhabited

namespace Outcome

/-- Whether a step failed. -/
def isFailed : Outcome → Bool
  | failed _ => true
  | _ => false

/-- The wording of an outcome. -/
def wording : Outcome → String
  | completed => "ok"
  | skipped => "skipped"
  | failed message => "FAILED: " ++ message

end Outcome

/-- What became of each step, in order, and the first error that fails the run. -/
structure Report where
  /-- The steps with their outcomes. -/
  steps : List (Step × Outcome) := []
  /-- The error that fails the run. -/
  error : Option Error := none
  deriving DecidableEq, Repr, Inhabited

namespace Report

/-- The report with one more step. -/
def add (report : Report) (step : Step) (outcome : Outcome) : Report :=
  { report with steps := report.steps ++ [(step, outcome)] }

/-- The report with a step that succeeded. -/
def completed (report : Report) (step : Step) : Report := report.add step .completed

/-- The report with a step that had nothing to do. -/
def skipped (report : Report) (step : Step) : Report := report.add step .skipped

/-- The report with a step that failed and let the run go on. -/
def failed (report : Report) (step : Step) (message : String) : Report :=
  report.add step (.failed message)

/-- The report with a step whose failure fails the run, for the first such error. -/
def failedHard (report : Report) (step : Step) (error : Error) : Report :=
  { report.failed step error.message with error := report.error <|> some error }

/-- The outcome of the first occurrence of a step. -/
def status? (report : Report) (step : Step) : Option Outcome := report.steps.lookup step

/-- The steps that failed. -/
def failures (report : Report) : List (Step × Outcome) :=
  report.steps.filter fun entry => entry.2.isFailed

/-- Whether no step failed. -/
def isClean (report : Report) : Bool := report.failures.isEmpty

/-- The report, or the error that fails the run. -/
def result (report : Report) : Except Error Report :=
  match report.error with
  | some error => .error error
  | none => .ok report

/-- One line of the report's text. -/
def line (entry : Step × Outcome) : String :=
  Text.padded entry.1.name 24 .left ' ' ++ " " ++ entry.2.wording ++ "\n"

/-- The report's text, one line for each step. -/
def text (report : Report) : String := String.join (report.steps.map line)

end Report

end DatabaseLifecycle

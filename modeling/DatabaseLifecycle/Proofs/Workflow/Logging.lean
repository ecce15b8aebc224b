import DatabaseLifecycle.Proofs.Workflow.CloneSubmission
import DatabaseLifecycle.Proofs.Workflow.Deprovision
import DatabaseLifecycle.Proofs.Workflow.Provision
import DatabaseLifecycle.Proofs.Workflow.Verification

/-!
Logs and results agree. A run that ends with a report has logged one line for each step that failed, and
a run that ends with an error has logged that error once, whichever of its stages it comes from.
-/

namespace DatabaseLifecycle

/-- The line that a call logs. -/
def Call.line? : Call → Option String
  | log line => some line
  | create _ _ | fetch _ _ _ | delete _ _ _ | connect _ | lookup _ | sleep _ => none

/-- The line that is due for a step, if the step failed in an operation. -/
def Outcome.failureLine? (operation : String) : Outcome → Option String
  | failed message => some (operation ++ "() failed! " ++ message)
  | completed | skipped => none

/-- The operation of a step, where the operations on records are named for what they do to them. -/
def Step.operation (deed : String) (step : Step) : String :=
  match step with
  | databaseReady => "wait_for_database_ready"
  | workloadRunning => "wait_for_workload_running"
  | databaseDeleted => "wait_for_database_deleted"
  | databaseSecret | serverSecret | server | database | workload | service =>
    deed ++ "_" ++ step.kind.word

/-- The lines that are due for the failed steps of a report, in its order. -/
def Report.failureLines (operation : Step → String) (report : Report) : List String :=
  report.steps.filterMap fun entry => entry.2.failureLine? (operation entry.1)

/-- The lines of a report are those of its steps. -/
theorem Report.failureLines_of_steps {report : Report} {steps : List Step}
    (outcome : Step → Outcome) (operation : Step → String)
    (noted : report.steps = steps.map fun step => (step, outcome step)) :
    report.failureLines operation
      = steps.filterMap fun step => (outcome step).failureLine? (operation step) := by
  rw [failureLines, noted, List.filterMap_map]
  rfl

namespace Exchanges

/-- The lines that are logged, in order. -/
def lines (exchanges : Exchanges) : List String := exchanges.filterMap (·.call.line?)

/-- Without exchanges nothing is logged. -/
@[simp] theorem lines_nil : lines [] = [] := rfl

/-- The line of the first exchange comes first, if it has one. -/
@[simp] theorem lines_cons (exchange : Exchange Call.interface) (rest : Exchanges) :
    lines (exchange :: rest) = exchange.call.line?.toList ++ rest.lines := by
  rw [lines, lines, List.filterMap_cons]
  cases exchange.call.line? <;> rfl

/-- The lines of two runs in a row are in a row. -/
@[simp] theorem lines_append (earlier later : Exchanges) :
    lines (earlier ++ later) = lines earlier ++ lines later := List.filterMap_append

/-- Where each step logs a line exactly if it failed, the lines are those due for all steps. -/
theorem lines_flatMap {own : Step → Exchanges} {line? : Step → Option String} {steps : List Step}
    (told : ∀ step ∈ steps, (own step).lines = (line? step).toList) :
    lines (steps.flatMap own) = steps.filterMap line? := by
  induction steps with
  | nil => rfl
  | cons step rest logged =>
    rw [List.flatMap_cons, lines_append, told step List.mem_cons_self,
      logged fun other listed => told other (List.mem_cons_of_mem _ listed), List.filterMap_cons]
    cases line? step <;> rfl

end Exchanges

namespace Workflow

variable {exchanges calls : Exchanges}

/-- A failure is logged with the line that is due for its step. -/
@[simp] theorem lines_failureLog {α : Type} (operation : String) (result : Except Error α) :
    (failureLog operation result).lines
      = ((Outcome.ofResult result).failureLine? operation).toList := by
  cases result <;> rfl

/-- Nothing is logged between the attempts of a wait. -/
theorem lines_spaced {asked : Call} (silent : asked.line? = none) (interval : Nat)
    (replies : List asked.Reply) : (spaced asked interval replies).lines = [] := by
  induction replies with
  | nil => rfl
  | cons reply rest unlogged =>
    cases rest with
    | nil => simp [spaced, silent]
    | cons second rest =>
      rw [spaced_cons (by simp), Exchanges.lines_cons, Exchanges.lines_cons, unlogged, silent]
      rfl

/-- A submission that fails is logged for its step. -/
theorem lines_submissionExchanges {kind : Kind} (record : Option kind.Record)
    (reply : Except Error kind.Record) :
    (submissionExchanges kind record reply).lines
      = ((Outcome.ofOptional record reply).failureLine? ("create_" ++ kind.word)).toList := by
  cases record with
  | none => rfl
  | some record => rw [submissionExchanges, Exchanges.lines_cons, lines_failureLog]; rfl

/-- A deletion that fails is logged for its step. -/
theorem lines_removalExchanges {kind : Kind} (place : Option RecordKey)
    (reply : Except Error Unit) :
    (removalExchanges kind place reply).lines
      = ((Outcome.ofOptional place reply).failureLine? ("delete_" ++ kind.word)).toList := by
  cases place with
  | none => rfl
  | some place => rw [removalExchanges, Exchanges.lines_cons, lines_failureLog]; rfl

/-- A database that stays is logged for the step that waits for its deletion. -/
theorem lines_goneExchanges (budget : Budget) (place : Option RecordKey)
    (replies : List (Except Error Database)) :
    (goneExchanges budget place replies).lines
      = (((goneResult? place replies).elim Outcome.skipped Outcome.ofResult).failureLine?
        "wait_for_database_deleted").toList := by
  cases place with
  | none => rfl
  | some place =>
    rw [goneExchanges, Exchanges.lines_append, lines_spaced rfl, lines_failureLog, List.nil_append]
    rfl

end Workflow

/-- A wait for a status that fails is logged for its step. -/
theorem StatusWait.lines_exchanges {kind : Kind} (wait : StatusWait kind)
    (submitted : Option kind.Record) (replies : List (Except Error kind.Record)) :
    (wait.exchanges submitted replies).lines
      = ((wait.outcome submitted replies).failureLine? wait.operation).toList := by
  cases submitted with
  | none => rfl
  | some submitted =>
    rw [exchanges, Exchanges.lines_append, Workflow.lines_spaced rfl, Workflow.lines_failureLog,
      List.nil_append, outcome]

/-- The exchanges of each step of provisioning. -/
def ProvisionReplies.stepExchanges (timings : Timings) (prepared : Bundle)
    (replies : ProvisionReplies) : Step → Exchanges
  | .databaseReady => (StatusWait.databaseReady timings).exchanges prepared.database
      replies.databases
  | .workloadRunning => (StatusWait.workloadRunning timings).exchanges prepared.workload
      replies.pods
  | step => Workflow.submissionExchanges step.kind (prepared.record? step)
      (replies.submissions step)

/-- Provisioning is its steps in a row: the submissions first, and then the two waits. -/
theorem ProvisionReplies.exchanges_eq_flatMap (timings : Timings) (prepared : Bundle)
    (replies : ProvisionReplies) : replies.exchanges timings prepared
      = Step.provisioning.flatMap (replies.stepExchanges timings prepared) := by
  simp [exchanges, Workflow.submissionsExchanges, Step.provisioning, Step.submissions,
    stepExchanges]

/-- Provisioning logs the failed steps of its report. -/
theorem ProvisionReplies.lines_exchanges (timings : Timings) (prepared : Bundle)
    (replies : ProvisionReplies) :
    (replies.exchanges timings prepared).lines
      = (replies.report timings prepared).failureLines (Step.operation "create") := by
  rw [Report.failureLines_of_steps _ _ (replies.steps_report timings prepared),
    exchanges_eq_flatMap]
  -- Each step of the report logs its own line.
  refine Exchanges.lines_flatMap fun step listed => ?_
  cases step with
  | databaseDeleted => simp [Step.provisioning, Step.submissions] at listed
  | databaseReady => exact (StatusWait.databaseReady timings).lines_exchanges _ _
  | workloadRunning => exact (StatusWait.workloadRunning timings).lines_exchanges _ _
  | service => rfl
  | _ => exact Workflow.lines_submissionExchanges _ _

/-- The exchanges of each step of deprovisioning. -/
def DeprovisionReplies.stepExchanges (budget : Budget) (bundle : Bundle)
    (replies : DeprovisionReplies) : Step → Exchanges
  | .databaseDeleted => Workflow.goneExchanges budget (bundle.place? .database) replies.databases
  | step => replies.removal bundle step

/-- Deprovisioning is its steps in a row, with the wait for the deletion among the removals. -/
theorem DeprovisionReplies.exchanges_eq_flatMap (budget : Budget) (bundle : Bundle)
    (replies : DeprovisionReplies) : replies.exchanges budget bundle
      = Step.deprovisioning.flatMap (replies.stepExchanges budget bundle) := by
  simp [exchanges, Step.deprovisioning, Step.databaseRemovals, Step.otherRemovals, stepExchanges]

/-- Deprovisioning logs the failed steps of its report. -/
theorem DeprovisionReplies.lines_exchanges (budget : Budget) (bundle : Bundle)
    (replies : DeprovisionReplies) :
    (replies.exchanges budget bundle).lines
      = (replies.report bundle).failureLines (Step.operation "delete") := by
  rw [Report.failureLines_of_steps (replies.outcome bundle) _ rfl, exchanges_eq_flatMap]
  refine Exchanges.lines_flatMap fun step listed => ?_
  cases step with
  | databaseReady | workloadRunning =>
    simp [Step.deprovisioning, Step.databaseRemovals, Step.otherRemovals] at listed
  | databaseDeleted => exact Workflow.lines_goneExchanges _ _ _
  | _ => exact Workflow.lines_removalExchanges _ _

/-- Resolution makes its calls without logging anything. -/
theorem Connecting.lines_eq {registration home : RecordKey} {exchanges : Exchanges}
    {ended : Except Error Database} (connecting : Connecting registration home exchanges ended) :
    exchanges.lines = [] := by
  cases connecting <;> rfl

/-- Resolution makes its calls without logging anything, whatever the bundle has. -/
theorem Resolving.lines_eq {bundle : Bundle} {exchanges : Exchanges}
    {ended : Except Error Database} (resolving : Resolving bundle exchanges ended) :
    exchanges.lines = [] := by
  cases resolving with
  | incomplete => rfl
  | attempted _ _ connecting => exact connecting.lines_eq

/-- A lookup by a record logs nothing itself. -/
theorem StatusLookup.lines_eq {record : Database} {exchanges : Exchanges}
    {ended : Except Error ManagedDatabase} (viewing : StatusLookup record exchanges ended) :
    exchanges.lines = [] := by
  cases viewing <;> rfl

/-- The comparison of policies logs nothing itself. -/
theorem PolicyComparison.lines_eq {requested : BackupPolicy} {record : Database}
    {exchanges : Exchanges} {ended : Except Error Unit}
    (comparing : PolicyComparison requested record exchanges ended) : exchanges.lines = [] := by
  cases comparing with
  | unviewed viewing | unattached viewing => exact viewing.lines_eq
  | unreported viewing | different viewing | agreed viewing =>
    rw [Exchanges.lines_append, viewing.lines_eq]
    rfl

/-- The choice of a clone's source logs nothing itself. -/
theorem SourceChoice.lines_eq {clone : CloneSpec} {source : String} {exchanges : Exchanges}
    {ended : Except Error CloneSpec} (choice : SourceChoice clone source exchanges ended) :
    exchanges.lines = [] := by
  cases choice <;> rfl

namespace Workflow

/-- What is logged goes with how a run ends: nothing for a success, and one line with the cause of a
failure, for one of these operations. -/
def LogsFailure {α : Type} (operations : List String) (exchanges : Exchanges)
    (ended : Except Error α) : Prop :=
  match ended with
  | .ok _ => exchanges.lines = []
  | .error error => ∃ operation ∈ operations, exchanges.lines = [error.failureLine operation]

/-- What is logged goes with how a run ends: the failed steps of its report, where the operations on
records are named for what they do to them, or one line with the cause for which there is no report. -/
def LogsReport (operation deed : String) (exchanges : Exchanges) (ended : Except Error Report) :
    Prop :=
  match ended with
  | .ok report => exchanges.lines = report.failureLines (Step.operation deed)
  | .error error => exchanges.lines = [error.failureLine operation]

variable {exchanges calls : Exchanges} {bundle : Bundle}

/-- A run that logs nothing until its own failure logs that and nothing else. -/
theorem logsFailure_of_silent {α : Type} {operation : String} {operations : List String}
    (ended : Except Error α) (silent : calls.lines = []) (listed : operation ∈ operations) :
    LogsFailure operations (calls ++ failureLog operation ended) ended := by
  cases ended with
  | ok value => rw [LogsFailure, Exchanges.lines_append, silent, lines_failureLog]; rfl
  | error error =>
    refine ⟨operation, listed, ?_⟩
    rw [Exchanges.lines_append, silent, lines_failureLog]
    rfl

/-- Provisioning logs the failed steps of its report, or the cause for which it has none. -/
theorem provision_logs {environment : Environment} {timings : Timings}
    {ended : Except Error Report × Bundle}
    (runs : (provision environment timings bundle).Runs exchanges ended) :
    LogsReport "provision" "create" exchanges ended.1 := by
  cases runs_provision runs with
  | refused | unprepared => rfl
  | submitted => exact ProvisionReplies.lines_exchanges ..

/-- Deprovisioning logs the failed steps of its report, or the cause for which it has none. -/
theorem deprovision_logs {timings : Timings} {ended : Except Error Report}
    (runs : (deprovision timings bundle).Runs exchanges ended) :
    LogsReport "deprovision" "delete" exchanges ended := by
  cases empty : bundle.isEmpty with
  | true =>
    unfold deprovision at runs
    simp only [empty, if_true, Program.runs_bind, runs_logFailure, Program.runs_pure] at runs
    obtain ⟨_, _, _, rfl, ⟨rfl, rfl⟩, rfl, rfl⟩ := runs
    rfl
  | false =>
    obtain ⟨replies, _, rfl, rfl⟩ := runs_deprovision empty runs
    exact replies.lines_exchanges ..

/-- The preparation of a clone logs its failure and nothing else. -/
theorem prepareClone_logs {environment : Environment} {source : String}
    {ended : Except Error Unit × Bundle}
    (runs : (prepareClone environment bundle source).Runs exchanges ended) :
    LogsFailure ["prepare_clone"] exchanges ended.1 := by
  cases runs_prepareClone runs with
  | unasked => exact ⟨"prepare_clone", List.mem_singleton_self _, rfl⟩
  | unpointed _ _ choice =>
    exact logsFailure_of_silent (.error _) choice.lines_eq (List.mem_singleton_self _)
  | pointed _ _ choice => exact choice.lines_eq

/-- Resolution logs its failure and nothing else. -/
theorem resolve_logs {ended : Except Error Database} (runs : (resolve bundle).Runs exchanges ended) :
    LogsFailure ["resolve"] exchanges ended := by
  obtain ⟨calls, resolving, rfl⟩ := runs_resolve_iff.mp runs
  exact logsFailure_of_silent _ resolving.lines_eq (List.mem_singleton_self _)

/-- The view of a database logs the failure of its resolution or its own, but never both. -/
theorem resolveStatus_logs {ended : Except Error ManagedDatabase}
    (runs : (resolveStatus bundle).Runs exchanges ended) :
    LogsFailure ["resolve", "resolve_status"] exchanges ended := by
  unfold resolveStatus at runs
  obtain ⟨_, resolved, _, rfl, connecting, looking⟩ := Program.runs_bind.mp runs
  obtain ⟨calls, resolving, rfl⟩ := runs_resolve_iff.mp connecting
  have silent := resolving.lines_eq
  cases resolved with
  | error error =>
    -- The resolution has logged its failure, which is handed on.
    obtain ⟨rfl, rfl⟩ := Program.runs_pure.mp looking
    rw [List.append_nil]
    exact logsFailure_of_silent (.error error) silent (by simp)
  | ok record =>
    obtain ⟨lookups, viewing, rfl⟩ := runs_bind_logged.mp looking
    -- A resolution that succeeded has logged nothing.
    have resolved : failureLog "resolve" (Except.ok record : Except Error Database) = [] := rfl
    rw [resolved, List.append_nil, ← List.append_assoc]
    refine logsFailure_of_silent _ ?_ (by simp)
    rw [Exchanges.lines_append, silent, (runs_statusLookup.mp viewing).lines_eq, List.append_nil]

/-- A verification logs the failure of the resolution or its own, but never both. -/
theorem verifyPolicy_logs {ended : Except Error Unit}
    (runs : (verifyPolicy bundle).Runs exchanges ended) :
    LogsFailure ["resolve", "verify_time_machine"] exchanges ended := by
  cases verification_of_runs runs with
  | unrequested => rfl
  | unresolved _ resolving =>
    exact logsFailure_of_silent (.error _) resolving.lines_eq (by simp)
  | compared _ resolving comparing =>
    refine logsFailure_of_silent _ ?_ (by simp)
    rw [Exchanges.lines_append, resolving.lines_eq, comparing.lines_eq, List.append_nil]

/-- Whatever the cluster and the control plane reply, logs and results agree. The lines of a provisioning
or a deprovisioning that ends with a report are those of its failed steps, in its order, each with the
operation of the step and the message that the report has for it. Every other failure is logged in one
line with its message, also when it comes from a resolution on which another operation is built. -/
theorem failures_are_logged_once {σ : Type} (handle : Program.Handler Call.interface σ) (state : σ)
    (environment : Environment) (timings : Timings) (bundle : Bundle) (source : String) :
    LogsReport "provision" "create"
        ((provision environment timings bundle).transcript handle state)
        ((provision environment timings bundle).run handle state).1.1
      ∧ LogsReport "deprovision" "delete" ((deprovision timings bundle).transcript handle state)
        ((deprovision timings bundle).run handle state).1
      ∧ LogsFailure ["prepare_clone"]
        ((prepareClone environment bundle source).transcript handle state)
        ((prepareClone environment bundle source).run handle state).1.1
      ∧ LogsFailure ["resolve"] ((resolve bundle).transcript handle state)
        ((resolve bundle).run handle state).1
      ∧ LogsFailure ["resolve", "resolve_status"] ((resolveStatus bundle).transcript handle state)
        ((resolveStatus bundle).run handle state).1
      ∧ LogsFailure ["resolve", "verify_time_machine"]
        ((verifyPolicy bundle).transcript handle state)
        ((verifyPolicy bundle).run handle state).1 :=
  ⟨provision_logs (Program.runs_transcript handle _ state),
    deprovision_logs (Program.runs_transcript handle _ state),
    prepareClone_logs (Program.runs_transcript handle _ state),
    resolve_logs (Program.runs_transcript handle _ state),
    resolveStatus_logs (Program.runs_transcript handle _ state),
    verifyPolicy_logs (Program.runs_transcript handle _ state)⟩

end Workflow

end DatabaseLifecycle

import DatabaseLifecycle.Proofs.Workflow.Preparation
import DatabaseLifecycle.Proofs.Workflow.StatusWait
import DatabaseLifecycle.Proofs.Workflow.Submission
import DatabaseLifecycle.Rehearsal

/-!
Provisioning in closed form: whatever the cluster replies, the calls, the report and the bundle that
is left are functions of the prepared bundle and of the replies.
-/

namespace DatabaseLifecycle

/-- The steps of provisioning, in order. -/
def Step.provisioning : List Step := Step.submissions ++ [databaseReady, workloadRunning]

/-- All replies that a run of provisioning gets. -/
structure ProvisionReplies where
  /-- The reply to each submission. -/
  submissions : (step : Step) → Except Error step.kind.Record
  /-- The replies to the fetches of the database. -/
  databases : List (Except Error Database)
  /-- The replies to the fetches of the workload. -/
  pods : List (Except Error Pod)

namespace ProvisionReplies

variable (timings : Timings) (prepared : Bundle) (replies : ProvisionReplies)

/-- The waits take these replies. -/
structure Fits : Prop where
  /-- The wait for the database does. -/
  databases : (StatusWait.databaseReady timings).Takes prepared.database replies.databases
  /-- The wait for the workload does. -/
  pods : (StatusWait.workloadRunning timings).Takes prepared.workload replies.pods

/-- The exchanges of the run. -/
def exchanges : Exchanges :=
  Workflow.submissionsExchanges prepared replies.submissions
    ++ (StatusWait.databaseReady timings).exchanges prepared.database replies.databases
    ++ (StatusWait.workloadRunning timings).exchanges prepared.workload replies.pods

/-- The report of the run. -/
def report : Report :=
  (StatusWait.workloadRunning timings).noted
    ((StatusWait.databaseReady timings).noted
      ⟨Workflow.submissionsNoted prepared replies.submissions, none⟩
      prepared.database replies.databases)
    prepared.workload replies.pods

/-- The bundle that the run leaves. -/
def left : Bundle :=
  { prepared with
    database := prepared.database.map (lastFetched · replies.databases)
    workload := prepared.workload.map (lastFetched · replies.pods) }

/-- What becomes of each step of the run. -/
def outcome : Step → Outcome
  | .databaseReady =>
    (StatusWait.databaseReady timings).outcome prepared.database replies.databases
  | .workloadRunning =>
    (StatusWait.workloadRunning timings).outcome prepared.workload replies.pods
  | step => .ofOptional (prepared.record? step) (replies.submissions step)

/-- The cause for which the run fails: the first wait that fails decides. -/
def failure? : Option Error :=
  (StatusWait.databaseReady timings).failure? prepared.database replies.databases
    <|> (StatusWait.workloadRunning timings).failure? prepared.workload replies.pods

/-- The report has all steps of provisioning, each once. -/
theorem steps_report : (replies.report timings prepared).steps =
    Step.provisioning.map fun step => (step, replies.outcome timings prepared step) := rfl

/-- The report fails for the cause for which the run does. -/
theorem error_report :
    (replies.report timings prepared).error = replies.failure? timings prepared := rfl

/-- The report tells what became of each step. -/
theorem status?_report {step : Step} (listed : step ∈ Step.provisioning) :
    (replies.report timings prepared).status? step
      = some (replies.outcome timings prepared step) :=
  Report.status?_of_steps (replies.steps_report timings prepared) listed

/-- A step of provisioning is skipped exactly when its record is absent. -/
theorem outcome_eq_skipped {step : Step} :
    replies.outcome timings prepared step = .skipped ↔ prepared.record? step = none := by
  cases step with
  | databaseReady => exact StatusWait.outcome_eq_skipped _
  | workloadRunning => exact StatusWait.outcome_eq_skipped _
  | service => exact iff_of_true rfl rfl
  | _ => exact Outcome.ofOptional_eq_skipped

/-- The submission of a record decides its step. -/
theorem outcome_submission {step : Step} (listed : step ∈ Step.submissions)
    (present : prepared.record? step ≠ none) :
    replies.outcome timings prepared step = .ofResult (replies.submissions step) := by
  have same : replies.outcome timings prepared step
      = .ofOptional (prepared.record? step) (replies.submissions step) := by
    -- The waits are not submissions, and all other steps are told by their reply alone.
    cases step with
    | databaseReady => simp [Step.submissions] at listed
    | workloadRunning => simp [Step.submissions] at listed
    | _ => rfl
  rw [same, Outcome.ofOptional_of_present present]

/-- The cluster sees the submissions, then the fetches of the database, then those of the workload. -/
theorem ofStore_exchanges : (replies.exchanges timings prepared).ofStore =
    Workflow.submitted prepared replies.submissions
      ++ (StatusWait.databaseReady timings).fetches prepared.database replies.databases
      ++ (StatusWait.workloadRunning timings).fetches prepared.workload replies.pods := by
  -- Each of the three parts leaves its calls to the cluster, in the order of the parts.
  rw [exchanges, Exchanges.ofStore_append, Exchanges.ofStore_append,
    Workflow.ofStore_submissionsExchanges, StatusWait.ofStore_exchanges,
    StatusWait.ofStore_exchanges]

end ProvisionReplies

/-- The cause for which nothing can be done with an empty bundle. -/
def Bundle.emptyError : Error := .configuration "resource bundle has no resources"

/-- A run of provisioning: what it exchanges, and how it ends. -/
inductive Provisioned (environment : Environment) (timings : Timings) (bundle : Bundle) :
    Exchanges → Except Error Report × Bundle → Prop where
  | refused (empty : bundle.isEmpty = true) :
      Provisioned environment timings bundle
        [⟨.log (Bundle.emptyError.failureLine "provision"), ()⟩] (.error Bundle.emptyError, bundle)
  | unprepared {error : Error} {reached : Bundle}
      (failed : bundle.prepare environment = (.error error, reached)) :
      Provisioned environment timings bundle [⟨.log (error.failureLine "provision"), ()⟩]
        (.error error, reached)
  | submitted {prepared : Bundle} {replies : ProvisionReplies} (present : bundle.isEmpty = false)
      (ready : bundle.prepare environment = (.ok (), prepared))
      (fits : replies.Fits timings prepared) :
      Provisioned environment timings bundle (replies.exchanges timings prepared)
        (.ok (replies.report timings prepared), replies.left prepared)

namespace Workflow

variable {environment : Environment} {timings : Timings} {bundle : Bundle} {exchanges : Exchanges}

/-- A prepared bundle is submitted and then waited for. -/
theorem runs_provisionPrepared {report : Report} {left : Bundle}
    (runs : (provisionPrepared timings bundle).Runs exchanges (report, left)) :
    ∃ replies : ProvisionReplies, replies.Fits timings bundle
      ∧ exchanges = replies.exchanges timings bundle ∧ report = replies.report timings bundle
      ∧ left = replies.left bundle := by
  -- The waits get the bundle as it was submitted, and each hands it on with its last record.
  unfold provisionPrepared at runs
  rw [Program.runs_bind] at runs
  obtain ⟨_, _, _, rfl, submitting, runs⟩ := runs
  rw [Program.runs_bind] at runs
  obtain ⟨_, ⟨_, _⟩, _, rfl, readying, starting⟩ := runs
  obtain ⟨submissions, rfl, rfl⟩ := runs_submitAll submitting
  obtain ⟨databases, fit, rfl, rfl, rfl⟩ := runs_awaitBundleDatabase readying
  obtain ⟨pods, fits, rfl, rfl, rfl⟩ := runs_awaitBundleWorkload starting
  refine ⟨⟨submissions, databases, pods⟩, ⟨fit, fits⟩, ?_, rfl, rfl⟩
  exact (List.append_assoc ..).symm

/-- Provisioning refuses an empty bundle, fails to prepare one, or submits and waits for it. -/
theorem runs_provision {ended : Except Error Report × Bundle}
    (runs : (provision environment timings bundle).Runs exchanges ended) :
    Provisioned environment timings bundle exchanges ended := by
  unfold provision at runs
  by_cases empty : bundle.isEmpty = true
  · -- An empty bundle is refused with one line, before preparation looks at it.
    simp only [empty, if_true, Program.runs_bind, runs_logFailure, Program.runs_pure] at runs
    obtain ⟨_, _, _, rfl, ⟨rfl, rfl⟩, rfl, rfl⟩ := runs
    exact .refused empty
  · rw [if_neg empty] at runs
    -- What preparation makes of the bundle decides whether anything is submitted.
    cases ready : bundle.prepare environment with
    | mk result prepared =>
      cases result with
      | error error =>
        -- A failed preparation is logged, and no call is made to the cluster.
        simp only [ready, Program.runs_bind, runs_logFailure, Program.runs_pure] at runs
        obtain ⟨_, _, _, rfl, ⟨rfl, rfl⟩, rfl, rfl⟩ := runs
        exact .unprepared ready
      | ok done =>
        simp only [ready, Program.runs_bind, Program.runs_pure] at runs
        obtain ⟨_, ⟨_, _⟩, _, rfl, submitting, rfl, rfl⟩ := runs
        obtain ⟨replies, fits, rfl, rfl, rfl⟩ := runs_provisionPrepared submitting
        rw [List.append_nil]
        exact .submitted (by simpa using empty) ready fits

/-- Whatever the cluster replies, provisioning a bundle that can be prepared submits every record once
and in order, then waits for the database and for the workload, and reports on every step; only the
waits can fail it, the first one that does. -/
theorem provision_reports_every_step {σ : Type} (handle : Program.Handler Call.interface σ)
    (state : σ) (environment : Environment) (timings : Timings) (bundle : Bundle)
    {prepared : Bundle} (present : bundle.isEmpty = false)
    (ready : bundle.prepare environment = (.ok (), prepared)) :
    ∃ (report : Report) (left : Bundle) (replies : ProvisionReplies),
      ((provision environment timings bundle).run handle state).1 = (.ok report, left)
      ∧ report.steps.map Prod.fst = [.databaseSecret, .serverSecret, .server, .database, .workload,
          .databaseReady, .workloadRunning]
      ∧ (∀ step ∈ Step.provisioning,
          report.status? step = some .skipped ↔ bundle.record? step = none)
      ∧ Exchanges.ofStore ((provision environment timings bundle).transcript handle state) =
          submitted prepared replies.submissions
            ++ (StatusWait.databaseReady timings).fetches prepared.database replies.databases
            ++ (StatusWait.workloadRunning timings).fetches prepared.workload replies.pods
      ∧ replies.Fits timings prepared
      ∧ (∀ step ∈ Step.submissions, bundle.record? step ≠ none →
          report.status? step = some (.ofResult (replies.submissions step)))
      ∧ (∀ message, report.status? .databaseReady = some (.failed message) ↔
          ∃ error, (StatusWait.databaseReady timings).failure? prepared.database replies.databases
            = some error ∧ message = error.message)
      ∧ (∀ message, report.status? .workloadRunning = some (.failed message) ↔
          ∃ error, (StatusWait.workloadRunning timings).failure? prepared.workload replies.pods
            = some error ∧ message = error.message)
      ∧ report.result =
          match (StatusWait.databaseReady timings).failure? prepared.database replies.databases,
            (StatusWait.workloadRunning timings).failure? prepared.workload replies.pods with
          | some error, _ => .error error
          | none, some error => .error error
          | none, none => .ok report := by
  -- The transcript decides the run, and a prepared bundle leaves only the run that submits.
  have runs := runs_provision (Program.runs_transcript handle (provision environment timings bundle)
    state)
  generalize ended : ((provision environment timings bundle).run handle state).1 = value at runs
  generalize exchanged : (provision environment timings bundle).transcript handle state = exchanges
    at runs
  cases runs with
  | refused empty => rw [present] at empty; contradiction
  | unprepared failed => rw [ready] at failed; cases failed
  | @submitted other replies _ prepares fits =>
    obtain rfl : prepared = other := by
      rw [ready] at prepares
      exact (Prod.mk.inj prepares).2
    refine ⟨replies.report timings prepared, replies.left prepared, replies, rfl, rfl, ?skips,
      replies.ofStore_exchanges timings prepared, fits, ?submissions, ?database, ?workload, ?result⟩
    case skips =>
      -- A step is skipped for the prepared bundle, which has a record exactly where the given one has.
      intro step listed
      rw [replies.status?_report timings prepared listed, Option.some_inj,
        replies.outcome_eq_skipped, Bundle.prepare_record?_eq_none ready]
    case submissions =>
      intro step listed named
      have kept := mt (Bundle.prepare_record?_eq_none ready step).mp named
      rw [replies.status?_report timings prepared (List.mem_append_left _ listed),
        replies.outcome_submission timings prepared listed kept]
    case database =>
      intro message
      rw [replies.status?_report timings prepared (by decide), Option.some_inj]
      exact StatusWait.outcome_eq_failed _
    case workload =>
      intro message
      rw [replies.status?_report timings prepared (by decide), Option.some_inj]
      exact StatusWait.outcome_eq_failed _
    case result =>
      -- The report keeps the cause of the first wait that failed.
      rw [Report.result, replies.error_report, ProvisionReplies.failure?]
      cases (StatusWait.databaseReady timings).failure? prepared.database replies.databases with
      | some error => rfl
      | none =>
        cases (StatusWait.workloadRunning timings).failure? prepared.workload replies.pods with
        | some error => rfl
        | none => rfl

/-- A database with the registration of its server and the secrets of both, as a template has them: no
password, no user and no endpoint. -/
def unfilledBundle : Bundle where
  databaseSecret := some { metadata := { name := some "orders-db" } }
  serverSecret := some { metadata := { name := some "cp-creds" } }
  server := some { metadata := { name := some "cp" }, spec := { credentialSecret := "cp-creds" } }
  database := some (ordersShown none)

/-- An environment with the values that are left out. -/
def fillingEnvironment : Environment where
  databasePassword := some "rosebud"
  controlPlaneUsername := some "admin"
  controlPlanePassword := some "hunter2"
  controlPlaneEndpoint := some "https://cp.local"

/-- The bundle with these values, all records in the namespace of the database. -/
def filledBundle : Bundle where
  databaseSecret := some {
    metadata := { name := some "orders-db", namespaceName := some "shop" }
    stringData := some (.ofList [("password", "rosebud")]) }
  serverSecret := some {
    metadata := { name := some "cp-creds", namespaceName := some "shop" }
    stringData := some (.ofList [("username", "admin"), ("password", "hunter2")]) }
  server := some {
    metadata := { name := some "cp", namespaceName := some "shop" }
    spec := { server := "https://cp.local", credentialSecret := "cp-creds" } }
  database := some (ordersShown none)

/-- A cluster that does not answer when the server is registered, and in which the database is being
created for ever. -/
def losingServer : Rehearsal where
  storeCues := [("create_server", [.fail (.cluster (.unreachable ["connection reset"]))]),
    ("get_database", [.give (ordersShown (some "CREATING")).write])]

/-- What becomes of the steps of that bundle on that cluster. -/
def lostServerSteps : List (Step × Outcome) :=
  [(.databaseSecret, .completed), (.serverSecret, .completed),
    (.server, .failed "kubernetes error: ServiceError: connection reset"), (.database, .completed),
    (.workload, .skipped),
    (.databaseReady, .failed "Database 'orders' not ready, current status: 'CREATING'"),
    (.workloadRunning, .skipped)]

/-- The filled records are all submitted although one of them is lost, the database is fetched until the
budget is spent, and the run fails because of it; nothing is done for a workload. -/
theorem provision_reports_lost_server :
    let provisioning := provision fillingEnvironment { databaseReady := ⟨5, 2⟩ } unfilledBundle
    ∃ (report : Report) (left : Bundle) (replies : ProvisionReplies),
      (provisioning.run Rehearsal.answer losingServer).1 = (.ok report, left)
      ∧ report.steps = lostServerSteps
      ∧ report.result = .error (.notReady "Database" "orders" "CREATING")
      ∧ Exchanges.ofStore (provisioning.transcript Rehearsal.answer losingServer)
        = submitted filledBundle replies.submissions
          ++ (replies.databases.map fun reply => ⟨.fetch .database "shop" "orders", reply⟩)
      ∧ replies.databases.length = 2 := by
  intro provisioning
  have ready : unfilledBundle.prepare fillingEnvironment = (.ok (), filledBundle) := rfl
  obtain ⟨report, left, replies, ended, -, -, exchanged, -⟩ :=
    provision_reports_every_step Rehearsal.answer losingServer fillingEnvironment
      { databaseReady := ⟨5, 2⟩ } unfilledBundle rfl ready
  have reported : (provisioning.run Rehearsal.answer losingServer).1.1.toOption
      = some ⟨lostServerSteps, some (.notReady "Database" "orders" "CREATING")⟩ := by decide +kernel
  rw [ended] at reported
  obtain rfl := Option.some.inj reported
  -- There is no workload to fetch, and all calls but the four submissions are fetches of the database.
  have fetched : Exchanges.ofStore (provisioning.transcript Rehearsal.answer losingServer)
      = submitted filledBundle replies.submissions
        ++ (replies.databases.map fun reply => ⟨.fetch .database "shop" "orders", reply⟩) :=
    exchanged.trans (List.append_nil _)
  have counted := congrArg List.length fetched
  rw [List.length_append, List.length_map] at counted
  have total : 6 = 4 + replies.databases.length := counted
  exact ⟨_, left, replies, ended, rfl, rfl, fetched, by omega⟩

end Workflow

end DatabaseLifecycle

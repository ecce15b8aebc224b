import DatabaseLifecycle.Proofs.Workflow.Wait
import DatabaseLifecycle.Workflow.Provision

/-!
The waits of provisioning in closed form: the exchanges, the step and the record that is left are
functions of the replies.
-/

namespace DatabaseLifecycle

/-- The record that is kept after a reply to a fetch. -/
def keep {ρ : Type} (current : ρ) : Except Error ρ → ρ
  | .ok fetched => fetched
  | .error _ => current

/-- The last record that was fetched, or the submitted one if none was. -/
def lastFetched {ρ : Type} (submitted : ρ) (replies : List (Except Error ρ)) : ρ :=
  (replies.filterMap Except.toOption).getLastD submitted

/-- Keeping each fetched record leaves the last one. -/
theorem foldl_keep {ρ : Type} (submitted : ρ) (replies : List (Except Error ρ)) :
    replies.foldl keep submitted = lastFetched submitted replies := by
  induction replies generalizing submitted with
  | nil => rfl
  | cons reply rest step =>
    rw [List.foldl_cons, step]
    cases reply with
    | ok fetched =>
      -- A fetched record takes the place of all earlier ones.
      have found : (Except.ok fetched : Except Error ρ).toOption = some fetched := rfl
      rw [lastFetched, lastFetched, List.filterMap_cons_some found, List.getLastD_cons]
      rfl
    | error error =>
      -- A failed fetch leaves the record as it was, and the list of records skips it.
      have absent : (Except.error error : Except Error ρ).toOption = none := rfl
      rw [lastFetched, lastFetched, List.filterMap_cons_none absent]
      rfl

/-- The record that is left was submitted, or it was fetched. -/
theorem lastFetched_mem {ρ : Type} (submitted : ρ) (replies : List (Except Error ρ)) :
    lastFetched submitted replies = submitted
      ∨ .ok (lastFetched submitted replies) ∈ replies := by
  -- Keeping changes the record only when a reply brings one.
  rw [← foldl_keep]
  induction replies generalizing submitted with
  | nil => exact Or.inl rfl
  | cons reply rest step =>
    rw [List.foldl_cons]
    rcases step (keep submitted reply) with same | fetched
    · rw [same]
      cases reply with
      | ok fetched => exact Or.inr (by simp [keep])
      | error error => exact Or.inl rfl
    · exact Or.inr (List.mem_cons_of_mem _ fetched)

/-- A wait for a status of records of one kind. -/
structure StatusWait (kind : Kind) where
  /-- The step that reports it. -/
  step : Step
  /-- The operation that a failure is logged for. -/
  operation : String
  /-- The status of a record. -/
  status : kind.Record → String
  /-- The awaited status. -/
  target : String
  /-- How long the wait goes on. -/
  budget : Budget
  /-- The namespace that a record is fetched from. -/
  namespaceName : kind.Record → String

namespace StatusWait

/-- The wait for a database to be ready. -/
def databaseReady (timings : Timings) : StatusWait .database where
  step := .databaseReady
  operation := "wait_for_database_ready"
  status database := (database.status.map (·.status)).getD ""
  target := "READY"
  budget := timings.databaseReady
  namespaceName := Database.namespaceName

/-- The wait for a workload to run. -/
def workloadRunning (timings : Timings) : StatusWait .pod where
  step := .workloadRunning
  operation := "wait_for_workload_running"
  status pod := pod.status.join.getD ""
  target := "Running"
  budget := timings.workloadRunning
  namespaceName pod := pod.metadata.namespaceOr defaultNamespace

variable {kind : Kind} (wait : StatusWait kind)

/-- The fetch that the wait repeats, with the namespace and the name of the submitted record. -/
@[reducible] def asked (submitted : kind.Record) : Call :=
  .fetch kind (wait.namespaceName submitted) (kind.metadata submitted).effectiveName

/-- What a reply says about the awaited status. -/
def verdict (submitted : kind.Record) : Except Error kind.Record → Except Error Unit
  | .ok fetched =>
    if wait.status fetched == wait.target then .ok ()
    else .error (.notReady kind.name (kind.metadata submitted).effectiveName (wait.status fetched))
  | .error error => .error error

/-- Whether a reply ends the wait: it has the status, or its cause can never be mended. -/
def settles : Except Error kind.Record → Bool
  | .ok fetched => wait.status fetched == wait.target
  | .error error => !error.isRetryable

/-- A record without the status is one that the wait goes on for. -/
theorem settles_verdict (submitted : kind.Record) :
    Workflow.settles Error.isRetryable (wait.verdict submitted) = wait.settles := by
  funext reply
  cases reply with
  | error error => rfl
  | ok fetched =>
    -- A record without the status is reported as not ready, and that can be mended.
    by_cases reached : (wait.status fetched == wait.target) = true
    · simp [Workflow.settles, verdict, settles, reached]
    · simp [Workflow.settles, verdict, settles, reached, Error.isRetryable]

/-- How the wait ends: the last reply decides. -/
def ended (submitted : kind.Record) (replies : List (Except Error kind.Record)) :
    Except Error Unit :=
  (replies.getLast?.map (wait.verdict submitted)).getD (.ok ())

/-- The replies that the wait takes, if there is a record to wait for. -/
abbrev Takes (submitted : Option kind.Record) (replies : List (Except Error kind.Record)) : Prop :=
  TakenFor wait.settles wait.budget.limit submitted replies

/-- The exchanges of the wait. -/
def exchanges : Option kind.Record → List (Except Error kind.Record) → Exchanges
  | none, _ => []
  | some submitted, replies =>
    Workflow.spaced (wait.asked submitted) wait.budget.interval replies
      ++ Workflow.failureLog wait.operation (wait.ended submitted replies)

/-- The fetches of the wait, each with its reply. -/
def fetches : Option kind.Record → List (Except Error kind.Record) → Exchanges
  | none, _ => []
  | some submitted, replies => replies.map fun reply => ⟨wait.asked submitted, reply⟩

/-- What becomes of the step of the wait. -/
def outcome : Option kind.Record → List (Except Error kind.Record) → Outcome
  | none, _ => .skipped
  | some submitted, replies => .ofResult (wait.ended submitted replies)

/-- The cause for which the wait fails. -/
def failure? : Option kind.Record → List (Except Error kind.Record) → Option Error
  | none, _ => none
  | some submitted, replies => DatabaseLifecycle.failure? (wait.ended submitted replies)

/-- The report with the step of the wait, whose failure fails the run. -/
def noted (report : Report) (submitted : Option kind.Record)
    (replies : List (Except Error kind.Record)) : Report where
  steps := report.steps ++ [(wait.step, wait.outcome submitted replies)]
  error := report.error <|> wait.failure? submitted replies

/-- A step of a wait is skipped exactly when there is no record to wait for. -/
theorem outcome_eq_skipped {submitted : Option kind.Record}
    {replies : List (Except Error kind.Record)} :
    wait.outcome submitted replies = .skipped ↔ submitted = none := by
  cases submitted with
  | none => simp [outcome]
  | some submitted => simp [outcome, Outcome.ofResult_ne_skipped]

/-- A step of a wait fails exactly when the wait does, with the wording of the cause. -/
theorem outcome_eq_failed {submitted : Option kind.Record}
    {replies : List (Except Error kind.Record)} {message : String} :
    wait.outcome submitted replies = .failed message ↔
      ∃ error, wait.failure? submitted replies = some error ∧ message = error.message := by
  cases submitted with
  | none => simp [outcome, failure?]
  | some submitted =>
    -- With a record, the step and the cause are both read off the end of the wait.
    cases ended : wait.ended submitted replies <;>
      simp [outcome, failure?, ended, Outcome.ofResult, DatabaseLifecycle.failure?, eq_comm]

/-- The cluster sees nothing of the wait but its fetches. -/
theorem ofStore_exchanges (submitted : Option kind.Record)
    (replies : List (Except Error kind.Record)) :
    (wait.exchanges submitted replies).ofStore = wait.fetches submitted replies := by
  cases submitted with
  | none => rfl
  | some submitted =>
    rw [exchanges, Exchanges.ofStore_append, Workflow.ofStore_spaced rfl,
      Workflow.ofStore_failureLog, List.append_nil, fetches]

/-- A wait for a status fetches one record again and again. -/
theorem awaitStatus_eq (submitted : kind.Record) :
    Workflow.awaitStatus kind wait.status wait.target wait.budget (wait.namespaceName submitted)
      (kind.metadata submitted).effectiveName submitted =
      Poll.attempts (Workflow.sleep wait.budget.interval) Error.isRetryable
        (Workflow.once (wait.asked submitted) keep (wait.verdict submitted))
        wait.budget.retries submitted := by
  -- The reply to each fetch gives both the record to keep and the verdict.
  unfold Workflow.awaitStatus Poll.whileRetryable
  congr 1
  funext current
  refine congrArg (@Program.ask Call.interface _ (wait.asked submitted)) (funext fun reply => ?_)
  cases reply with
  | error error => rfl
  | ok fetched =>
    -- The verdict and the program make the same comparison, so they branch alike.
    have verdict : wait.verdict submitted (.ok fetched) =
        if wait.status fetched == wait.target then .ok ()
        else .error (.notReady kind.name (kind.metadata submitted).effectiveName
          (wait.status fetched)) := rfl
    change (if wait.status fetched == wait.target then pure (fetched, .ok ())
      else pure (fetched, .error (.notReady kind.name (kind.metadata submitted).effectiveName
        (wait.status fetched))))
      = pure (fetched, wait.verdict submitted (.ok fetched))
    rw [verdict]
    split <;> rfl

/-- A wait for a status makes spaced fetches; the last reply decides, and the last record is left. -/
theorem runs_awaitStatus {submitted last : kind.Record} {outcome : Except Error Unit}
    {exchanges : Exchanges}
    (runs : (Workflow.awaitStatus kind wait.status wait.target wait.budget
        (wait.namespaceName submitted) (kind.metadata submitted).effectiveName submitted).Runs
      exchanges (last, outcome)) :
    ∃ replies, Taken wait.settles wait.budget.limit replies
      ∧ exchanges = Workflow.spaced (wait.asked submitted) wait.budget.interval replies
      ∧ last = lastFetched submitted replies ∧ outcome = wait.ended submitted replies := by
  -- The wait is a poll of one call, whose runs are known.
  rw [awaitStatus_eq] at runs
  obtain ⟨replies, taken, rfl, kept, decided⟩ := Workflow.runs_attempts runs
  rw [settles_verdict, Budget.retries_add_one] at taken
  refine ⟨replies, taken, rfl, ?_, ?_⟩
  · rw [kept, foldl_keep]
  · rw [ended, decided, Option.getD_some]

/-- A wait that is reported makes spaced fetches, notes how they ended and leaves the last record. -/
theorem runs_present {α : Type} (report : Report) (submitted : kind.Record)
    (leave : kind.Record → α) {noted : Report} {left : α} {exchanges : Exchanges}
    (runs : (Workflow.awaitStatus kind wait.status wait.target wait.budget
        (wait.namespaceName submitted) (kind.metadata submitted).effectiveName submitted
      >>= fun ended => Workflow.noteHard report wait.step wait.operation ended.2
      >>= fun report => pure (report, leave ended.1)).Runs exchanges (noted, left)) :
    ∃ replies, wait.Takes (some submitted) replies
      ∧ exchanges = wait.exchanges (some submitted) replies
      ∧ noted = wait.noted report (some submitted) replies
      ∧ left = leave (lastFetched submitted replies) := by
  -- Noting how the wait ended adds the rest.
  rw [Program.runs_bind] at runs
  obtain ⟨_, ⟨last, outcome⟩, _, rfl, waiting, runs⟩ := runs
  obtain ⟨replies, taken, rfl, rfl, rfl⟩ := wait.runs_awaitStatus waiting
  simp only [Program.runs_bind, Workflow.runs_noteHard, Program.runs_pure] at runs
  obtain ⟨_, _, _, rfl, ⟨rfl, rfl⟩, rfl, ended⟩ := runs
  obtain ⟨rfl, rfl⟩ := Prod.mk.inj ended
  refine ⟨replies, .present taken, ?_, rfl, rfl⟩
  rw [StatusWait.exchanges, List.append_nil]

end StatusWait

namespace Workflow

variable {timings : Timings} {report noted : Report} {bundle left : Bundle} {exchanges : Exchanges}

/-- The wait for the database of a bundle. -/
theorem runs_awaitBundleDatabase
    (runs : (awaitBundleDatabase timings report bundle).Runs exchanges (noted, left)) :
    ∃ replies, (StatusWait.databaseReady timings).Takes bundle.database replies
      ∧ exchanges = (StatusWait.databaseReady timings).exchanges bundle.database replies
      ∧ noted = (StatusWait.databaseReady timings).noted report bundle.database replies
      ∧ left = { bundle with database := bundle.database.map (lastFetched · replies) } := by
  unfold awaitBundleDatabase at runs
  cases present : bundle.database with
  | none =>
    rw [present] at runs
    -- Without a database nothing is fetched and the step is skipped.
    obtain ⟨rfl, ended⟩ := Program.runs_pure.mp runs
    obtain ⟨rfl, rfl⟩ := Prod.mk.inj ended
    refine ⟨[], .absent, rfl, ?_, ?_⟩
    · simp [StatusWait.noted, Report.skipped, Report.add, StatusWait.outcome, StatusWait.failure?,
        StatusWait.databaseReady]
    · rw [Option.map_none, ← present]
  | some database =>
    rw [present] at runs
    exact (StatusWait.databaseReady timings).runs_present report database
      (fun last => ({ bundle with database := some last } : Bundle)) runs

/-- The wait for the workload of a bundle. -/
theorem runs_awaitBundleWorkload
    (runs : (awaitBundleWorkload timings report bundle).Runs exchanges (noted, left)) :
    ∃ replies, (StatusWait.workloadRunning timings).Takes bundle.workload replies
      ∧ exchanges = (StatusWait.workloadRunning timings).exchanges bundle.workload replies
      ∧ noted = (StatusWait.workloadRunning timings).noted report bundle.workload replies
      ∧ left = { bundle with workload := bundle.workload.map (lastFetched · replies) } := by
  unfold awaitBundleWorkload at runs
  cases present : bundle.workload with
  | none =>
    rw [present] at runs
    -- Without a workload nothing is fetched and the step is skipped.
    obtain ⟨rfl, ended⟩ := Program.runs_pure.mp runs
    obtain ⟨rfl, rfl⟩ := Prod.mk.inj ended
    refine ⟨[], .absent, rfl, ?_, ?_⟩
    · simp [StatusWait.noted, Report.skipped, Report.add, StatusWait.outcome, StatusWait.failure?,
        StatusWait.workloadRunning]
    · rw [Option.map_none, ← present]
  | some pod =>
    rw [present] at runs
    exact (StatusWait.workloadRunning timings).runs_present report pod
      (fun last => ({ bundle with workload := some last } : Bundle)) runs

/-- A database with this status. -/
def ordersShown (status : Option String) : Database where
  metadata := { name := some "orders", namespaceName := some "shop" }
  spec := ⟨"cp", .fresh { name := "orders", credentialSecret := "orders-db", type := "postgres" }⟩
  status := status.map fun status => { status }

/-- A workload in this phase. -/
def workloadShown (phase : Option String) : Pod where
  metadata := { name := some "verify", namespaceName := some "shop" }
  status := some phase

end Workflow

end DatabaseLifecycle

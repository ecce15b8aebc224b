import DatabaseLifecycle.Proofs.Workflow.Exchanges
import DatabaseLifecycle.Proofs.Workflow.Steps
import DatabaseLifecycle.Workflow.Provision

/-! Submissions: every record of a bundle is submitted in turn, and each has a step of its own. -/

namespace DatabaseLifecycle.Workflow

/-- The exchanges of a step that submits a record, if there is one. -/
def submissionExchanges (kind : Kind) (record : Option kind.Record)
    (reply : Except Error kind.Record) : Exchanges :=
  match record with
  | none => []
  | some record => ⟨.create kind record, reply⟩ :: failureLog ("create_" ++ kind.word) reply

/-- A submission adds one step and makes no call but its own. -/
theorem runs_submit {report noted : Report} {step : Step} {kind : Kind}
    {record : Option kind.Record} {exchanges : Exchanges}
    (runs : (submit report step kind record).Runs exchanges noted) :
    ∃ reply : Except Error kind.Record, exchanges = submissionExchanges kind record reply
      ∧ noted = report.add step (.ofOptional record reply) := by
  cases record with
  | none =>
    -- Without a record any reply will do, since none is asked for.
    obtain ⟨rfl, rfl⟩ := Program.runs_pure.mp runs
    exact ⟨.error default, rfl, rfl⟩
  | some record =>
    -- A record is submitted, and its reply is noted whether it is an error or not.
    simp only [submit, runs_create_bind, runs_note] at runs
    obtain ⟨reply, _, rfl, rfl, rfl⟩ := runs
    exact ⟨reply, rfl, rfl⟩

/-- The exchanges of all submissions of a bundle. -/
def submissionsExchanges (bundle : Bundle)
    (replies : (step : Step) → Except Error step.kind.Record) : Exchanges :=
  Step.submissions.flatMap fun step =>
    submissionExchanges step.kind (bundle.record? step) (replies step)

/-- The submissions that a bundle leads to, each with its reply. -/
def submitted (bundle : Bundle) (replies : (step : Step) → Except Error step.kind.Record) :
    Exchanges :=
  Step.submissions.filterMap fun step =>
    (bundle.record? step).map fun record => ⟨.create step.kind record, replies step⟩

/-- The cluster sees one submission for each record. -/
theorem ofStore_submissionsExchanges (bundle : Bundle)
    (replies : (step : Step) → Except Error step.kind.Record) :
    (submissionsExchanges bundle replies).ofStore = submitted bundle replies := by
  -- A failure is also logged, but a log line is no call to the cluster.
  unfold submissionsExchanges submitted
  induction Step.submissions with
  | nil => rfl
  | cons step rest seen =>
    rw [List.flatMap_cons, Exchanges.ofStore_append, seen]
    cases present : bundle.record? step with
    | none => simp [submissionExchanges, present]
    | some record => simp [submissionExchanges, present, Call.isStoreCall]

/-- The steps of a report on all submissions of a bundle. -/
def submissionsNoted (bundle : Bundle)
    (replies : (step : Step) → Except Error step.kind.Record) : List (Step × Outcome) :=
  Step.submissions.map fun step => (step, .ofOptional (bundle.record? step) (replies step))

/-- All records of a bundle are submitted in order, whatever became of the earlier ones. -/
theorem runs_submitAll {bundle : Bundle} {report : Report} {exchanges : Exchanges}
    (runs : (submitAll bundle).Runs exchanges report) :
    ∃ replies : (step : Step) → Except Error step.kind.Record,
      exchanges = submissionsExchanges bundle replies
        ∧ report = ⟨submissionsNoted bundle replies, none⟩ := by
  -- Each submission contributes one reply; together they are a reply for every step.
  simp only [submitAll, Program.runs_bind] at runs
  obtain ⟨_, _, _, rfl, first, _, _, _, rfl, second, _, _, _, rfl, third, _, _, _, rfl, fourth,
    fifth⟩ := runs
  obtain ⟨databaseSecret, rfl, rfl⟩ := runs_submit first
  obtain ⟨serverSecret, rfl, rfl⟩ := runs_submit second
  obtain ⟨server, rfl, rfl⟩ := runs_submit third
  obtain ⟨database, rfl, rfl⟩ := runs_submit fourth
  obtain ⟨workload, rfl, rfl⟩ := runs_submit fifth
  -- Steps that submit nothing need some reply as well; it is never looked at.
  refine ⟨fun
    | .databaseSecret => databaseSecret
    | .serverSecret => serverSecret
    | .server => server
    | .database => database
    | .workload => workload
    | _ => .error default, ?_, rfl⟩
  simp only [submissionsExchanges, Step.submissions, List.flatMap_cons, List.flatMap_nil,
    List.append_nil, Bundle.record?]

end DatabaseLifecycle.Workflow

import DatabaseLifecycle.Proofs.Workflow.Steps
import DatabaseLifecycle.Proofs.Workflow.Wait
import DatabaseLifecycle.Rehearsal
import DatabaseLifecycle.Workflow.Deprovision

/-!
Deprovisioning in closed form: whatever the cluster replies, the calls and the report are functions of
the bundle and of the replies.
-/

namespace DatabaseLifecycle

/-- The steps of deprovisioning, in order. -/
def Step.deprovisioning : List Step := databaseRemovals ++ [databaseDeleted] ++ otherRemovals

namespace Workflow

/-- A record is taken for gone exactly if it has no name or an empty one. -/
theorem isNameless_iff {metadata : Metadata} :
    isNameless metadata = true ↔ metadata.name = none ∨ metadata.name = some "" := by
  cases name : metadata.name <;> simp [isNameless, name]

/-- Whether a reply shows that a deleted database is gone: fetching it failed, or brought a record
without a name. -/
def isGone : Except Error Database → Bool
  | .error _ => true
  | .ok fetched => fetched.metadata.name = none ∨ fetched.metadata.name = some ""

/-- A record that was fetched counts as gone exactly if the wait takes it for nameless. -/
theorem isGone_ok (fetched : Database) : isGone (.ok fetched) = isNameless fetched.metadata := by
  rw [Bool.eq_iff_iff, isNameless_iff, isGone, decide_eq_true_eq]

/-- The cause for which the wait for a deletion fails when the database is still there. -/
def stillPresent (name : String) (database : Database) : Error :=
  .internal "wait_for_database_deleted"
    ("Database '" ++ name ++ "' still present, status '"
      ++ (database.status.map (·.status)).getD "" ++ "'")

/-- What a reply to a fetch says about the awaited deletion. -/
def goneVerdict (name : String) : Except Error Database → Except Error Unit
  | .error _ => .ok ()
  | .ok fetched => if isGone (.ok fetched) then .ok () else .error (stillPresent name fetched)

/-- The fetch that the wait for a deletion repeats. -/
@[reducible] def askedGone (place : RecordKey) : Call :=
  .fetch .database place.namespaceName place.name

/-- How the wait for a deletion ends: the last reply decides. -/
def endedGone (name : String) (replies : List (Except Error Database)) : Except Error Unit :=
  (replies.getLast?.map (goneVerdict name)).getD (.ok ())

/-- Only a database that is gone ends the wait for its deletion. -/
theorem settles_goneVerdict (name : String) :
    settles (fun _ => true) (goneVerdict name) = isGone := by
  funext reply
  cases reply with
  | error error => rfl
  | ok fetched =>
    -- A record without a name counts as gone; any other keeps the wait going.
    by_cases gone : isGone (.ok fetched) = true
    · simp [settles, goneVerdict, gone]
    · simp [settles, goneVerdict, gone]

/-- The wait for a deletion fetches one record again and again. -/
theorem awaitDeleted_eq (budget : Budget) (place : RecordKey) :
    awaitDeleted budget place.namespaceName place.name = (do
      let ended ← Poll.attempts (sleep budget.interval) (fun _ => true)
        (once (askedGone place) (fun _ _ => ()) (goneVerdict place.name)) budget.retries ()
      return ended.2) := by
  -- The reply to each fetch gives the verdict, and there is nothing else to keep.
  unfold awaitDeleted Poll.whileFailing Poll.whileRetryable
  congr 1
  congr 1
  funext current
  refine congrArg (@Program.ask Call.interface _ (askedGone place)) (funext fun reply => ?_)
  cases reply with
  | error error => rfl
  | ok fetched =>
    have verdict : goneVerdict place.name (.ok fetched) =
        if isNameless fetched.metadata then .ok () else .error (stillPresent place.name fetched) := by
      rw [goneVerdict, isGone_ok]
    change (if isNameless fetched.metadata then pure ((), .ok ())
      else pure ((), .error (stillPresent place.name fetched)))
      = pure ((), goneVerdict place.name (.ok fetched))
    rw [verdict]
    split <;> rfl

/-- The wait for a deletion makes spaced fetches, and the last reply decides how it ends. -/
theorem runs_awaitDeleted {budget : Budget} (place : RecordKey) {outcome : Except Error Unit}
    {exchanges : Exchanges}
    (runs : (awaitDeleted budget place.namespaceName place.name).Runs exchanges outcome) :
    ∃ replies, Taken isGone budget.limit replies
      ∧ exchanges = spaced (askedGone place) budget.interval replies
      ∧ outcome = endedGone place.name replies := by
  -- The wait is a poll of one call that goes on as long as the database is found.
  rw [awaitDeleted_eq, Program.runs_bind] at runs
  obtain ⟨_, ⟨last, ended⟩, _, rfl, attempts, runs⟩ := runs
  obtain ⟨replies, taken, rfl, _, decided⟩ := runs_attempts attempts
  obtain ⟨rfl, rfl⟩ := Program.runs_pure.mp runs
  rw [settles_goneVerdict, Budget.retries_add_one] at taken
  refine ⟨replies, taken, List.append_nil _, ?_⟩
  rw [endedGone, decided, Option.getD_some]

/-- The exchanges of the wait for a deletion. -/
def goneExchanges (budget : Budget) : Option RecordKey → List (Except Error Database) → Exchanges
  | none, _ => []
  | some place, replies =>
    spaced (askedGone place) budget.interval replies
      ++ failureLog "wait_for_database_deleted" (endedGone place.name replies)

/-- The fetches of the wait for a deletion, each with its reply. -/
def goneFetches : Option RecordKey → List (Except Error Database) → Exchanges
  | none, _ => []
  | some place, replies => replies.map fun reply => ⟨askedGone place, reply⟩

/-- The cluster sees nothing of the wait for a deletion but its fetches. -/
theorem ofStore_goneExchanges (budget : Budget) (place : Option RecordKey)
    (replies : List (Except Error Database)) :
    (goneExchanges budget place replies).ofStore = goneFetches place replies := by
  cases place with
  | none => rfl
  | some place =>
    -- Pauses and the line of a failure drop out.
    rw [goneExchanges, Exchanges.ofStore_append, ofStore_spaced rfl, ofStore_failureLog,
      List.append_nil, goneFetches]

/-- The result of the wait for a deletion, if there is a database to wait for. -/
def goneResult? (place : Option RecordKey) (replies : List (Except Error Database)) :
    Option (Except Error Unit) :=
  place.map fun place => endedGone place.name replies

/-- A wait for a deletion does what the answers of a sequence demand. -/
structure GoneWaited (budget : Budget) (name : String) (answers : Nat → Except Error Database)
    (count : Nat) (outcome : Except Error Unit) : Prop where
  /-- The wait stops at the first answer that shows the database gone, or when the budget is
  spent. -/
  count_of_first : ∀ place, FirstSettling isGone answers place → count = min place budget.limit
  /-- A database that stays is fetched until the budget is spent. -/
  count_of_none : (∀ place, isGone (answers place) = false) → count = budget.limit
  /-- The wait succeeds exactly when the database is gone in time. -/
  completed_iff : outcome = .ok () ↔ ∃ place ≤ budget.limit, FirstSettling isGone answers place
  /-- Otherwise it fails because of the record that the last fetch found. -/
  failed : (∀ place ≤ budget.limit, ¬ FirstSettling isGone answers place) →
    ∃ last, answers (budget.limit - 1) = .ok last ∧ outcome = .error (stillPresent name last)

/-- A reply is a success of the wait exactly when it shows the database gone. -/
theorem goneVerdict_eq_ok {name : String} {reply : Except Error Database} :
    goneVerdict name reply = .ok () ↔ isGone reply = true := by
  cases reply with
  | error error => simp [goneVerdict, isGone]
  | ok fetched => simp [goneVerdict]

/-- A wait whose replies follow a sequence of answers does what these answers demand. -/
theorem goneWaited_of_taken {budget : Budget} {name : String}
    {answers : Nat → Except Error Database} {replies : List (Except Error Database)}
    (taken : Taken isGone budget.limit replies) (follows : Follows answers replies) :
    GoneWaited budget name answers replies.length (endedGone name replies) := by
  -- The last reply decides everything, and it is the answer at the number of fetches.
  have last := follows.getLast?_eq taken.ne_nil
  have ended : endedGone name replies = goneVerdict name (answers (replies.length - 1)) := by
    rw [endedGone, last, Option.map_some, Option.getD_some]
  have settled : isGone (answers (replies.length - 1)) = true ↔
      ∃ place ≤ budget.limit, FirstSettling isGone answers place := by
    rw [← taken.last_settles_iff follows, last]
    simp
  refine ⟨fun _ => taken.length_of_first follows, taken.length_of_none follows, ?completed, ?failed⟩
  case completed => rw [ended, goneVerdict_eq_ok, settled]
  case failed =>
    intro none
    -- The last reply found a database with a name, and all attempts were made before it.
    have unsettled : isGone (answers (replies.length - 1)) = false := by
      rw [← Bool.not_eq_true, settled]
      rintro ⟨place, bounded, first⟩
      exact none place bounded first
    have count : replies.length = budget.limit := by
      refine taken.length_of_unsettled fun other found => ?_
      rw [last] at found
      rw [← Option.some_inj.mp found, unsettled]
    rw [ended]
    -- An error would have counted as gone, so the last answer is a record with a name.
    rw [count] at unsettled ⊢
    cases answered : answers (budget.limit - 1) with
    | error error =>
      rw [answered] at unsettled
      cases unsettled
    | ok fetched =>
      rw [answered] at unsettled
      exact ⟨fetched, rfl, by simp [goneVerdict, unsettled]⟩

/-- The exchanges of a step that deletes a record, if there is one to delete. -/
def removalExchanges (kind : Kind) (place : Option RecordKey) (reply : Except Error Unit) :
    Exchanges :=
  match place with
  | none => []
  | some place =>
    ⟨.delete kind place.namespaceName place.name, reply⟩
      :: failureLog ("delete_" ++ kind.word) reply

/-- A deletion adds one step and makes no call but its own. -/
theorem runs_remove {report noted : Report} {step : Step} {kind : Kind} (place : RecordKey)
    {exchanges : Exchanges}
    (runs : (remove report step kind place.namespaceName place.name).Runs exchanges noted) :
    ∃ reply, exchanges = removalExchanges kind (some place) reply
      ∧ noted = report.add step (.ofResult reply) := by
  -- The deletion is the only call, and its reply is noted.
  simp only [remove, runs_delete_bind, runs_note] at runs
  obtain ⟨reply, _, rfl, rfl, rfl⟩ := runs
  exact ⟨reply, rfl, rfl⟩

/-- The deletion of a record that may be absent adds one step in any case. -/
theorem runs_removePresent {report noted : Report} {step : Step} {kind : Kind} {fallback : String}
    {record : Option kind.Record} {exchanges : Exchanges}
    (runs : (removePresent report step kind fallback record).Runs exchanges noted) :
    ∃ reply, exchanges = removalExchanges kind ((record.map kind.metadata).map fun metadata =>
        ⟨metadata.namespaceOr fallback, metadata.effectiveName⟩) reply
      ∧ noted = report.add step (.ofOptional record reply) := by
  cases record with
  | none =>
    -- Without a record any reply will do, since none is asked for.
    obtain ⟨rfl, rfl⟩ := Program.runs_pure.mp runs
    exact ⟨.ok (), rfl, rfl⟩
  | some record =>
    exact runs_remove ⟨(kind.metadata record).namespaceOr fallback,
      (kind.metadata record).effectiveName⟩ runs

end Workflow

/-- All replies that a run of deprovisioning gets. -/
structure DeprovisionReplies where
  /-- The reply to each deletion. -/
  removals : Step → Except Error Unit
  /-- The replies to the fetches of the deleted database. -/
  databases : List (Except Error Database)

namespace DeprovisionReplies

variable (budget : Budget) (bundle : Bundle) (replies : DeprovisionReplies)

/-- The exchanges of the step that deletes the record of a step. -/
def removal (step : Step) : Exchanges :=
  Workflow.removalExchanges step.kind (bundle.place? step) (replies.removals step)

/-- The exchanges of the run. -/
def exchanges : Exchanges :=
  Step.databaseRemovals.flatMap (replies.removal bundle)
    ++ Workflow.goneExchanges budget (bundle.place? .database) replies.databases
    ++ Step.otherRemovals.flatMap (replies.removal bundle)

/-- The deletions of the records that a bundle has for some steps, each with its reply. -/
def removed (steps : List Step) : Exchanges :=
  steps.filterMap fun step => (bundle.place? step).map fun place =>
    ⟨.delete step.kind place.namespaceName place.name, replies.removals step⟩

/-- The cluster sees one deletion for each record. -/
theorem ofStore_removals (steps : List Step) :
    Exchanges.ofStore (steps.flatMap (replies.removal bundle)) = replies.removed bundle steps := by
  -- A step without a place makes no call, and a failed deletion also logs a line.
  induction steps with
  | nil => rfl
  | cons step rest seen =>
    rw [List.flatMap_cons, Exchanges.ofStore_append, seen]
    cases present : bundle.place? step with
    | none => simp [removal, removed, Workflow.removalExchanges, present]
    | some place => simp [removal, removed, Workflow.removalExchanges, present, Call.isStoreCall]

/-- The cluster sees the database deleted and waited for, and then the deletions of the others. -/
theorem ofStore_exchanges : (replies.exchanges budget bundle).ofStore =
    replies.removed bundle Step.databaseRemovals
      ++ Workflow.goneFetches (bundle.place? .database) replies.databases
      ++ replies.removed bundle Step.otherRemovals := by
  rw [exchanges, Exchanges.ofStore_append, Exchanges.ofStore_append, ofStore_removals,
    ofStore_removals, Workflow.ofStore_goneExchanges]

/-- What becomes of each step of the run. -/
def outcome : Step → Outcome
  | .databaseDeleted =>
    (Workflow.goneResult? (bundle.place? .database) replies.databases).elim .skipped .ofResult
  | step => .ofOptional (bundle.place? step) (replies.removals step)

/-- The report of the run. -/
def report : Report where
  steps := Step.deprovisioning.map fun step => (step, replies.outcome bundle step)
  error := (Workflow.goneResult? (bundle.place? .database) replies.databases).bind failure?

/-- The report tells what became of each step. -/
theorem status?_report {step : Step} (listed : step ∈ Step.deprovisioning) :
    (replies.report bundle).status? step = some (replies.outcome bundle step) :=
  Report.status?_of_steps rfl listed

/-- A step of deprovisioning is skipped exactly when it has nothing to do. -/
theorem outcome_eq_skipped {step : Step} :
    replies.outcome bundle step = .skipped ↔ bundle.concerns step = false := by
  rw [← Bundle.isSome_place?, ← Bool.not_eq_true, Option.not_isSome_iff_eq_none]
  cases step with
  | databaseDeleted =>
    -- The wait is for the database that was deleted, so both have one place.
    have same : bundle.place? .databaseDeleted = bundle.place? .database := rfl
    rw [same, outcome, Workflow.goneResult?]
    cases bundle.place? .database with
    | none => simp
    | some place => simp [Outcome.ofResult_ne_skipped]
  | _ => exact Outcome.ofOptional_eq_skipped

/-- The deletion of a record decides its step. -/
theorem outcome_removal {step : Step} (listed : step ∈ Step.databaseRemovals ++ Step.otherRemovals)
    (concerned : bundle.concerns step = true) :
    replies.outcome bundle step = .ofResult (replies.removals step) := by
  have same : replies.outcome bundle step
      = .ofOptional (bundle.place? step) (replies.removals step) := by
    -- Only the step of the wait is told by more than one reply.
    cases step with
    | databaseDeleted => simp [Step.databaseRemovals, Step.otherRemovals] at listed
    | _ => rfl
  rw [← Bundle.isSome_place?, Option.isSome_iff_ne_none] at concerned
  rw [same, Outcome.ofOptional_of_present concerned]

end DeprovisionReplies

namespace Workflow

variable {timings : Timings} {bundle : Bundle} {exchanges : Exchanges}

/-- The database of a bundle is deleted with its service and waited for. -/
theorem runs_removeBundleDatabase {budget : Budget} {report : Report}
    (runs : (removeBundleDatabase budget bundle.namespaceName {} bundle.database).Runs exchanges
      report) :
    ∃ (service database : Except Error Unit) (replies : List (Except Error Database)),
      TakenFor isGone budget.limit (bundle.place? .database) replies
      ∧ exchanges = removalExchanges .service (bundle.place? .service) service
          ++ removalExchanges .database (bundle.place? .database) database
          ++ goneExchanges budget (bundle.place? .database) replies
      ∧ report.steps = [(.service, .ofOptional (bundle.place? .service) service),
          (.database, .ofOptional (bundle.place? .database) database),
          (.databaseDeleted,
            (goneResult? (bundle.place? .database) replies).elim .skipped .ofResult)]
      ∧ report.error = (goneResult? (bundle.place? .database) replies).bind failure? := by
  cases present : bundle.database with
  | none =>
    rw [present] at runs
    obtain ⟨rfl, rfl⟩ := Program.runs_pure.mp runs
    -- Without a database there is no service either, and all three steps are skipped.
    have absent : bundle.place? .database = none := by
      simp [Bundle.place?, Bundle.metadata?, Bundle.record?, present]
    have unexposed : bundle.place? .service = none := by
      simp [Bundle.place?, Bundle.metadata?, Bundle.record?, present]
    rw [absent, unexposed]
    exact ⟨.ok (), .ok (), [], .absent, rfl, rfl, rfl⟩
  | some database =>
    rw [present] at runs
    let place : RecordKey := ⟨database.metadata.namespaceOr bundle.namespaceName,
      database.metadata.effectiveName⟩
    have here : bundle.place? .database = some place := by
      simp [Bundle.place?, Bundle.metadata?, Bundle.record?, present, Kind.metadata, place]
    have exposed : bundle.place? .service
        = some ⟨place.namespaceName, Database.serviceName place.name⟩ := by
      simp [Bundle.place?, Bundle.metadata?, Bundle.record?, present, Kind.metadata, place]
    -- The three steps are noted one after the other, each from its own exchanges.
    simp only [removeBundleDatabase, removeDatabase, Program.runs_bind, runs_noteHard] at runs
    obtain ⟨_, _, _, rfl, first, _, _, _, rfl, second, _, _, _, rfl, waiting, rfl, rfl⟩ := runs
    obtain ⟨service, rfl, rfl⟩ := runs_remove ⟨place.namespaceName, Database.serviceName place.name⟩
      first
    obtain ⟨removed, rfl, rfl⟩ := runs_remove place second
    obtain ⟨replies, taken, rfl, rfl⟩ := runs_awaitDeleted place waiting
    rw [here, exposed]
    refine ⟨service, removed, replies, .present taken, ?_, rfl, rfl⟩
    simp only [goneExchanges, List.append_assoc]

/-- All records of a bundle are deleted, the database and its service first. -/
theorem runs_deprovisionPresent {report : Report}
    (runs : (deprovisionPresent timings bundle).Runs exchanges report) :
    ∃ replies : DeprovisionReplies,
      TakenFor isGone timings.databaseDeleted.limit (bundle.place? .database) replies.databases
      ∧ exchanges = replies.exchanges timings.databaseDeleted bundle
      ∧ report = replies.report bundle := by
  -- Each deletion contributes one reply; together they are a reply for every step.
  simp only [deprovisionPresent, Program.runs_bind] at runs
  obtain ⟨_, _, _, rfl, first, _, _, _, rfl, second, _, _, _, rfl, third, _, _, _, rfl, fourth,
    fifth⟩ := runs
  obtain ⟨service, database, databases, fits, rfl, steps, error⟩ := runs_removeBundleDatabase first
  obtain ⟨server, rfl, rfl⟩ := runs_removePresent second
  obtain ⟨serverSecret, rfl, rfl⟩ := runs_removePresent third
  obtain ⟨databaseSecret, rfl, rfl⟩ := runs_removePresent fourth
  obtain ⟨workload, rfl, rfl⟩ := runs_removePresent fifth
  refine ⟨⟨fun
    | .service => service
    | .database => database
    | .server => server
    | .serverSecret => serverSecret
    | .databaseSecret => databaseSecret
    | .workload => workload
    | _ => .ok (), databases⟩, fits, ?_, ?_⟩
  · simp only [DeprovisionReplies.exchanges, DeprovisionReplies.removal, Step.databaseRemovals,
      Step.otherRemovals, List.flatMap_cons, List.flatMap_nil, List.append_nil, List.append_assoc]
    rfl
  · simp only [Report.add, DeprovisionReplies.report, steps, error, Step.deprovisioning,
      Step.databaseRemovals, Step.otherRemovals, DeprovisionReplies.outcome, Bundle.place?,
      Bundle.metadata?, Bundle.record?, Outcome.ofOptional_map, List.map_cons, List.map_nil,
      List.cons_append, List.nil_append]

/-- Deprovisioning a bundle that is not empty always ends with a report. -/
theorem runs_deprovision {ended : Except Error Report} (present : bundle.isEmpty = false)
    (runs : (deprovision timings bundle).Runs exchanges ended) :
    ∃ replies : DeprovisionReplies,
      TakenFor isGone timings.databaseDeleted.limit (bundle.place? .database) replies.databases
      ∧ exchanges = replies.exchanges timings.databaseDeleted bundle
      ∧ ended = .ok (replies.report bundle) := by
  -- The bundle has a record, so it is not refused.
  unfold deprovision at runs
  simp only [present, Bool.false_eq_true, if_false, Program.runs_bind, Program.runs_pure] at runs
  obtain ⟨_, _, _, rfl, removing, rfl, rfl⟩ := runs
  obtain ⟨replies, fits, rfl, rfl⟩ := runs_deprovisionPresent removing
  exact ⟨replies, fits, List.append_nil _, rfl⟩

/-- Whatever the cluster replies, deprovisioning deletes every record of a bundle once, at its own place
or else in the bundle's namespace, and reports on every step; only a database that stays fails it. -/
theorem deprovision_reports_every_step {σ : Type} (handle : Program.Handler Call.interface σ)
    (state : σ) (timings : Timings) (bundle : Bundle) (present : bundle.isEmpty = false) :
    ∃ (report : Report) (replies : DeprovisionReplies),
      ((deprovision timings bundle).run handle state).1 = .ok report
      ∧ report.steps.map Prod.fst = [.service, .database, .databaseDeleted, .server, .serverSecret,
          .databaseSecret, .workload]
      ∧ (∀ step ∈ Step.deprovisioning,
          report.status? step = some .skipped ↔ bundle.concerns step = false)
      ∧ Exchanges.ofStore ((deprovision timings bundle).transcript handle state) =
          replies.removed bundle Step.databaseRemovals
            ++ goneFetches (bundle.place? .database) replies.databases
            ++ replies.removed bundle Step.otherRemovals
      ∧ (∀ step ∈ Step.databaseRemovals ++ Step.otherRemovals, bundle.concerns step = true →
          report.status? step = some (.ofResult (replies.removals step)))
      ∧ (bundle.place? .database = none → report.result = .ok report)
      ∧ ∀ place, bundle.place? .database = some place → ∃ outcome : Except Error Unit,
          report.status? .databaseDeleted = some (.ofResult outcome)
            ∧ report.result = outcome.map (fun _ => report)
            ∧ ∀ answers, Follows answers replies.databases →
              GoneWaited timings.databaseDeleted place.name answers replies.databases.length
                outcome := by
  -- The transcript decides the run, and its closed form gives the report.
  have runs := Program.runs_transcript handle (deprovision timings bundle) state
  generalize ((deprovision timings bundle).run handle state).1 = value at runs ⊢
  generalize (deprovision timings bundle).transcript handle state = exchanges at runs ⊢
  obtain ⟨replies, fits, rfl, rfl⟩ := runs_deprovision present runs
  refine ⟨replies.report bundle, replies, rfl, rfl, ?skips, replies.ofStore_exchanges _ bundle,
    ?removals, ?absent, ?waited⟩
  case skips =>
    intro step listed
    rw [replies.status?_report bundle listed, Option.some_inj, replies.outcome_eq_skipped]
  case removals =>
    intro step listed concerned
    have deprovisioned : step ∈ Step.deprovisioning := by
      rcases List.mem_append.mp listed with early | late
      · exact List.mem_append_left _ (List.mem_append_left _ early)
      · exact List.mem_append_right _ late
    rw [replies.status?_report bundle deprovisioned, replies.outcome_removal bundle listed concerned]
  case absent =>
    intro absent
    simp [Report.result, DeprovisionReplies.report, goneResult?, absent]
  case waited =>
    intro place here
    rw [here] at fits
    refine ⟨endedGone place.name replies.databases, ?_, ?_, ?_⟩
    · rw [replies.status?_report bundle (by decide), DeprovisionReplies.outcome, goneResult?, here]
      rfl
    · -- Only the wait can put a cause into the report.
      simp only [Report.result, DeprovisionReplies.report, goneResult?, here, Option.map_some,
        Option.bind_some]
      cases endedGone place.name replies.databases <;> rfl
    · intro answers follows
      cases fits with
      | present taken => exact goneWaited_of_taken taken follows

/-- A database in this status. -/
def departing (status : String) : Database where
  metadata := { name := some "orders", namespaceName := some "shop" }
  spec := ⟨"cp", .fresh { name := "orders", credentialSecret := "orders-db", type := "postgres" }⟩
  status := some { status }

/-- A database with the registration of its server, which names no namespace. -/
def departingBundle : Bundle where
  server := some { metadata := { name := some "cp" }, spec := { credentialSecret := "cp-creds" } }
  database := some (departing "READY")

/-- A cluster that does not answer when the service is deleted, and that shows the database once more
before it is gone. -/
def reluctant : Rehearsal where
  storeCues := [("delete_service", [.fail (.cluster (.unreachable ["connection reset"]))]),
    ("get_database", [.give (departing "DELETING").write, .plain])]

/-- What becomes of the steps of that bundle on that cluster. -/
def keptServiceSteps : List (Step × Outcome) :=
  [(.service, .failed "kubernetes error: ServiceError: connection reset"), (.database, .completed),
    (.databaseDeleted, .completed), (.server, .completed), (.serverSecret, .skipped),
    (.databaseSecret, .skipped), (.workload, .skipped)]

/-- The database is deleted and waited for although its service stays, and then the registration is
deleted in the namespace of the database; no other record is touched. -/
theorem deprovision_reports_kept_service :
    let deprovisioning := deprovision { databaseDeleted := ⟨5, 4⟩ } departingBundle
    ∃ (report : Report) (replies : DeprovisionReplies),
      (deprovisioning.run Rehearsal.answer reluctant).1 = .ok report
      ∧ report.steps = keptServiceSteps
      ∧ report.result = .ok report
      ∧ Exchanges.ofStore (deprovisioning.transcript Rehearsal.answer reluctant)
        = [⟨.delete .service "shop" "orders-svc", replies.removals .service⟩,
            ⟨.delete .database "shop" "orders", replies.removals .database⟩]
          ++ (replies.databases.map fun reply => ⟨.fetch .database "shop" "orders", reply⟩)
          ++ [⟨.delete .server "shop" "cp", replies.removals .server⟩]
      ∧ replies.databases.length = 2 := by
  intro deprovisioning
  obtain ⟨report, replies, ended, -, -, exchanged, -⟩ :=
    deprovision_reports_every_step Rehearsal.answer reluctant { databaseDeleted := ⟨5, 4⟩ }
      departingBundle rfl
  have reported : (deprovisioning.run Rehearsal.answer reluctant).1.toOption
      = some ⟨keptServiceSteps, none⟩ := by decide +kernel
  rw [ended] at reported
  obtain rfl := Option.some.inj reported
  -- Two calls come before the fetches and one after them.
  have fetches : (goneFetches (departingBundle.place? .database) replies.databases).length
      = replies.databases.length := List.length_map _
  have counted := congrArg List.length exchanged
  rw [List.length_append, List.length_append, fetches] at counted
  have total : 5 = 2 + replies.databases.length + 1 := counted
  exact ⟨_, replies, ended, rfl, rfl, exchanged, by omega⟩

end Workflow

end DatabaseLifecycle

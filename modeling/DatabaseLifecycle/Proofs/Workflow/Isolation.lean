import DatabaseLifecycle.Proofs.Store.Locality
import DatabaseLifecycle.Proofs.Workflow.Contention
import DatabaseLifecycle.Proofs.Workflow.RoundTrip

/-!
Isolation: runs on bundles that have no key in common share a store without noticing each other, since
no call of a run is about anything but the keys of its bundle.
-/

namespace DatabaseLifecycle

/-- A fetch of a wait is about the key of the submitted record. -/
theorem StatusWait.key_of_fetches {kind : Kind} (wait : StatusWait kind)
    (rule : ∀ record, wait.namespaceName record
      = (kind.metadata record).namespaceOr defaultNamespace)
    {submitted : Option kind.Record} {replies : List (Except Error kind.Record)}
    {exchange : Exchange Call.interface} (listed : exchange ∈ wait.fetches submitted replies)
    {other : Kind} {key : RecordKey} (touches : exchange.call.Touches other key) :
    kind = other ∧ ∃ record, submitted = some record
      ∧ RecordKey.ofMetadata (kind.metadata record) = key := by
  cases submitted with
  | none => cases listed
  | some record =>
    obtain ⟨reply, _, rfl⟩ := List.mem_map.mp listed
    -- A fetch is neither a submission nor a deletion.
    rcases touches with creates | ⟨same, own⟩ | deletes
    · exact creates.elim
    · refine ⟨same, record, rfl, ?_⟩
      rw [← own, rule, RecordKey.of_namespaceOr]
    · exact deletes.elim

section Calls

variable {environment : Environment} {timings : Timings} {bundle prepared : Bundle}
  {exchange : Exchange Call.interface} {kind : Kind} {key : RecordKey}

/-- Provisioning makes no call about anything but the keys of the bundle. -/
theorem ProvisionReplies.owns_of_touches {replies : ProvisionReplies}
    (ready : bundle.prepare environment = (.ok (), prepared))
    (listed : exchange ∈ replies.exchanges timings prepared)
    (touches : exchange.call.Touches kind key) : bundle.Owns kind key := by
  have seen := Exchanges.mem_ofStore listed touches.isStoreCall
  rw [ofStore_exchanges, List.mem_append, List.mem_append] at seen
  -- A call is a submission or one of the requests of the two waits.
  rcases seen with (submitting | readying) | starting
  · obtain ⟨step, among, found⟩ := List.mem_filterMap.mp submitting
    obtain ⟨record, present, rfl⟩ := Option.map_eq_some_iff.mp found
    rcases touches with ⟨rfl, rfl⟩ | fetches | deletes
    · exact Bundle.owns_of_prepared ready among present
    · exact fetches.elim
    · exact deletes.elim
  · obtain ⟨rfl, record, present, rfl⟩ :=
      (StatusWait.databaseReady timings).key_of_fetches (fun _ => rfl) readying touches
    exact Bundle.owns_of_prepared ready (show Step.database ∈ Step.submissions by decide) present
  · obtain ⟨rfl, record, present, rfl⟩ :=
      (StatusWait.workloadRunning timings).key_of_fetches (fun _ => rfl) starting touches
    exact Bundle.owns_of_prepared ready (show Step.workload ∈ Step.submissions by decide) present

/-- Deprovisioning makes no call about anything but the keys of the bundle. -/
theorem DeprovisionReplies.owns_of_touches {budget : Budget} {replies : DeprovisionReplies}
    (listed : exchange ∈ replies.exchanges budget bundle)
    (touches : exchange.call.Touches kind key) : bundle.Owns kind key := by
  rcases replies.store_calls listed touches.isStoreCall with
    ⟨_, _, _, _, rfl⟩ | ⟨place, here, asked⟩
  · rcases touches with creates | fetches | deletes
    · exact creates.elim
    · exact fetches.elim
    · exact owns_of_deletes listed deletes
  · -- The database that is waited for is one that was deleted.
    rw [asked] at touches
    rcases touches with creates | ⟨rfl, rfl⟩ | deletes
    · exact creates.elim
    · exact ⟨.database, by decide, rfl, by rw [Bundle.of_place here, here]⟩
    · exact deletes.elim

end Calls

/-- A run of a workflow on a bundle. -/
inductive Job where
  /-- The bundle is provisioned. -/
  | provision (given : Provisioning)
  /-- The bundle is deprovisioned. -/
  | deprovision (timings : Timings) (bundle : Bundle)

namespace Job

/-- The bundle that the run is about. -/
def bundle : Job → Bundle
  | provision given => given.bundle
  | deprovision _ bundle => bundle

/-- The run itself, with its result and the bundle that it leaves. -/
def workflow : Job → Workflow (Except Error Report × Bundle)
  | provision given => given.workflow
  | deprovision timings bundle => do return (← Workflow.deprovision timings bundle, bundle)

/-- A run makes no call about anything but the keys of its bundle, however its calls are answered. -/
theorem makesOnly_workflow (job : Job) : job.workflow.MakesOnly fun call : Call => ∀ kind key,
    call.Touches kind key → job.bundle.Owns kind key := by
  refine Program.makesOnly_of_runs Call.nonempty_reply ?_
  intro exchanges ended runs exchange listed kind key touches
  -- The line of a failure is about no key at all.
  have unlogged (line : String) (logged : exchange = ⟨.log line, ()⟩) : False := by
    rw [logged] at touches
    rcases touches with creates | fetches | deletes
    · exact creates
    · exact fetches
    · exact deletes
  cases job with
  | provision given =>
    cases Workflow.runs_provision runs with
    | refused empty => exact (unlogged _ (List.mem_singleton.mp listed)).elim
    | unprepared failed => exact (unlogged _ (List.mem_singleton.mp listed)).elim
    | submitted present ready fits => exact ProvisionReplies.owns_of_touches ready listed touches
  | deprovision timings bundle =>
    obtain ⟨earlier, result, later, rfl, removing, rest⟩ := Program.runs_bind.mp runs
    obtain ⟨rfl, rfl⟩ := Program.runs_pure.mp rest
    rw [List.append_nil] at listed
    cases present : bundle.isEmpty with
    | true =>
      -- An empty bundle is refused with one line.
      unfold Workflow.deprovision at removing
      rw [if_pos present, Program.runs_bind] at removing
      obtain ⟨_, _, _, rfl, logging, ended⟩ := removing
      obtain ⟨rfl, rfl⟩ := Workflow.runs_logFailure.mp logging
      obtain ⟨rfl, _⟩ := Program.runs_pure.mp ended
      exact (unlogged _ (List.mem_singleton.mp listed)).elim
    | false =>
      obtain ⟨replies, _, rfl, _⟩ := Workflow.runs_deprovision present removing
      exact DeprovisionReplies.owns_of_touches listed touches

variable {ι σ : Type} [DecidableEq ι]

/-- Runs that share a store, after the turns of a schedule. -/
def together (jobs : ι → Job) (store : LocalStore σ) (state : σ)
    (schedule : List (Turn ι StatusUpdate)) :
    Pool Call.interface ι σ (Except Error Report × Bundle) :=
  store.play (Pool.start state fun index => (jobs index).workflow) schedule

/-- Runs on bundles that have no key in common do not disturb each other: whatever the order of their
calls and of an operator's updates, each of them makes the same calls with the same replies, ends with the
same result and the same bundle, and leaves the same records under its own keys as when the calls of all
others are struck from the schedule. -/
theorem jobs_isolated (jobs : ι → Job)
    (apart : ∀ first second, first ≠ second → ∀ kind key, (jobs first).bundle.Owns kind key →
      ¬ (jobs second).bundle.Owns kind key)
    (store : LocalStore σ) (state : σ) (schedule : List (Turn ι StatusUpdate)) (index : ι) :
    let whole := together jobs store state schedule
    let alone := together jobs store state (schedule.filter (·.concerns index))
    alone.exchanges index = whole.exchanges index
      ∧ (∀ ended, alone.programs index = .done ended ↔ whole.programs index = .done ended)
      ∧ alone.programs index = whole.programs index
      ∧ ∀ kind key, (jobs index).bundle.Owns kind key →
        store.at? alone kind key = store.at? whole kind key := by
  intro whole alone
  -- At the start there is nothing to tell the two pools apart.
  have start : store.Alike (fun index => (jobs index).bundle.Owns) index
      (Pool.start state fun index => (jobs index).workflow)
      (Pool.start state fun index => (jobs index).workflow) :=
    ⟨rfl, rfl, fun _ _ _ => rfl⟩
  have alike : store.Alike (fun index => (jobs index).bundle.Owns) index whole alone :=
    start.played (fun index => (jobs index).makesOnly_workflow) apart schedule
  refine ⟨alike.exchanges, fun ended => ?_, alike.programs, alike.records⟩
  rw [alike.programs]

/-- A database in the namespace of a shop. -/
def shopDatabase (name : String) : Database where
  metadata := { name := some name, namespaceName := some "shop" }
  spec := ⟨"cp", .fresh { name, credentialSecret := name ++ "-db", type := "postgres" }⟩

/-- A database is provisioned with a workload, and another one is deprovisioned with its server. -/
def ofDatabases (provisioned : Bool) : Job :=
  if provisioned then .provision ⟨{}, ⟨⟨5, 3⟩, ⟨7, 2⟩, ⟨1, 1⟩⟩, {
    database := some (shopDatabase "orders")
    workload := some { metadata := { name := some "web", namespaceName := some "shop" } } }⟩
  else .deprovision { databaseDeleted := ⟨1, 4⟩ } {
    server := some { metadata := { name := some "cp" }, spec := { credentialSecret := "cp-creds" } }
    database := some (shopDatabase "ledger") }

/-- The two bundles do not share a key. -/
theorem apart_ofDatabases (first second : Bool) (different : first ≠ second) (kind : Kind)
    (key : RecordKey) (owns : (ofDatabases first).bundle.Owns kind key) :
    ¬ (ofDatabases second).bundle.Owns kind key := by
  rintro ⟨other, among, same, there⟩
  obtain ⟨step, listed, rfl, here⟩ := owns
  -- No two steps about one kind have the same place, whichever of the bundles comes first.
  have places : ∀ first second : Bool, first ≠ second →
      ∀ step ∈ Step.databaseRemovals ++ Step.otherRemovals,
      ∀ other ∈ Step.databaseRemovals ++ Step.otherRemovals, other.kind = step.kind →
      (ofDatabases first).bundle.place? step = (ofDatabases second).bundle.place? other →
      (ofDatabases first).bundle.place? step = none := by decide +kernel
  have absent := places first second different step listed other among same (here.trans there.symm)
  rw [absent] at here
  cases here

/-- An operator who reports databases ready and workloads running. -/
def starting : StatusUpdate where
  rewrite
    | .database, _, database => { database with status := some { status := "READY" } }
    | .pod, _, pod => { pod with status := some (some "Running") }
    | .secret, _, secret => secret
    | .server, _, server => server
    | .service, _, service => service
  keeps kind _ _ := by cases kind <;> rfl

/-- The calls of both runs take turns, and the operator comes in after the first fetch of the database
that is awaited. -/
def mixedTurns : List (Turn Bool StatusUpdate) :=
  [.run true, .run false, .run true, .run false, .run true, .change starting, .run false, .run true,
    .run false, .run true, .run true]

/-- A cluster with the database that is deprovisioned. -/
def ledgerRecords : RecordMap :=
  RecordMap.empty.insert .database ⟨"shop", "ledger"⟩ (shopDatabase "ledger")

/-- The database and the workload that are provisioned get ready after the same calls whether or not
another database is deprovisioned in between, and nothing else becomes of their records. -/
theorem jobs_isolated_databases :
    let whole := together ofDatabases .rehearsed ledgerRecords mixedTurns
    let alone := together ofDatabases .rehearsed ledgerRecords (mixedTurns.filter (·.concerns true))
    alone.exchanges true = whole.exchanges true
      ∧ (∃ (report : Report) (left : Bundle), whole.programs true = .done (.ok report, left)
        ∧ alone.programs true = .done (.ok report, left)
        ∧ report.status? .databaseReady = some .completed
        ∧ report.status? .workloadRunning = some .completed)
      ∧ (∃ (report : Report) (left : Bundle), whole.programs false = .done (.ok report, left)
        ∧ report.status? .databaseDeleted = some .completed)
      ∧ LocalStore.rehearsed.at? alone .database ⟨"shop", "orders"⟩
        = LocalStore.rehearsed.at? whole .database ⟨"shop", "orders"⟩
      ∧ LocalStore.rehearsed.at? whole .database ⟨"shop", "ledger"⟩ = none := by
  intro whole alone
  have isolated := jobs_isolated ofDatabases apart_ofDatabases .rehearsed ledgerRecords mixedTurns true
  obtain ⟨same, ended, -, kept⟩ := isolated
  have owned : (ofDatabases true).bundle.Owns .database ⟨"shop", "orders"⟩ :=
    ⟨.database, by decide, rfl, rfl⟩
  have provisioned : ∃ (report : Report) (left : Bundle), whole.programs true = .done (.ok report, left)
      ∧ report.status? .databaseReady = some .completed
      ∧ report.status? .workloadRunning = some .completed := ⟨_, _, rfl, rfl, rfl⟩
  have deprovisioned : ∃ (report : Report) (left : Bundle),
      whole.programs false = .done (.ok report, left)
      ∧ report.status? .databaseDeleted = some .completed := ⟨_, _, rfl, rfl⟩
  obtain ⟨report, left, done, readied, started⟩ := provisioned
  exact ⟨same, ⟨report, left, done, (ended _).mpr done, readied, started⟩, deprovisioned,
    kept _ _ owned, rfl⟩

end Job

end DatabaseLifecycle

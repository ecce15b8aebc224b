import DatabaseLifecycle.Proofs.Store.Serving
import DatabaseLifecycle.Proofs.Workflow.Provision

/-!
Where the records of a bundle lie: preparation submits them to their places, and the bundle that
provisioning leaves has the same places as long as its workload still names its own.
-/

namespace DatabaseLifecycle

/-- A namespace that stands in for a missing one is found in a key. -/
theorem RecordKey.of_namespaceOr (metadata : Metadata) :
    of (metadata.namespaceOr defaultNamespace) metadata.effectiveName = ofMetadata metadata := by
  -- The fallback is not empty, so a key does not fall back a second time.
  have named := metadata.namespaceOr_ne_empty (show defaultNamespace ≠ "" by decide)
  simp [of, ofMetadata, named]

namespace Exchanges

/-- An exchange with the cluster is an exchange. -/
theorem mem_of_mem_ofStore {exchange : Exchange Call.interface} {exchanges : Exchanges}
    (listed : exchange ∈ exchanges.ofStore) : exchange ∈ exchanges := (List.mem_filter.mp listed).1

/-- The exchanges with the cluster are those whose calls go to it. -/
theorem mem_ofStore {exchange : Exchange Call.interface} {exchanges : Exchanges}
    (listed : exchange ∈ exchanges) (store : exchange.call.isStoreCall = true) :
    exchange ∈ exchanges.ofStore := List.mem_filter.mpr ⟨listed, store⟩

end Exchanges

namespace Bundle

variable {environment : Environment} {bundle prepared : Bundle} {step : Step} {key : RecordKey}

/-- The keys that the records of a bundle and its service lie under. -/
def Owns (bundle : Bundle) (kind : Kind) (key : RecordKey) : Prop :=
  ∃ step ∈ Step.databaseRemovals ++ Step.otherRemovals,
    step.kind = kind ∧ bundle.place? step = some key

/-- The workload names its namespace, or that of the bundle is the one for records that name none. -/
def WorkloadPlaced (bundle : Bundle) : Prop :=
  ∀ pod, bundle.workload = some pod →
    pod.metadata.namespaceName.getD "" ≠ "" ∨ bundle.namespaceName = defaultNamespace

/-- Bundles with the same places own the same keys. -/
theorem owns_congr {other : Bundle} (same : ∀ step ∈ Step.databaseRemovals ++ Step.otherRemovals,
    other.place? step = bundle.place? step) (kind : Kind) (key : RecordKey) :
    other.Owns kind key ↔ bundle.Owns kind key :=
  exists_congr fun step => and_congr_right fun among => by rw [same step among]

/-- A place has a namespace. -/
theorem of_place (here : bundle.place? step = some key) :
    RecordKey.of key.namespaceName key.name = key := by
  have named : key.namespaceName ≠ "" := by
    -- Whatever its step, a place was made with the fallback of the bundle.
    cases step <;>
    · obtain ⟨metadata, _, rfl⟩ := Option.map_eq_some_iff.mp here
      exact metadata.namespaceOr_ne_empty bundle.namespaceName_ne_empty
  simp [RecordKey.of, named]

/-- A database lies under its own key. -/
theorem place?_database (bundle : Bundle) :
    bundle.place? .database = (bundle.metadata? .database).map .ofMetadata := by
  have own := bundle.namespaceName_eq
  rw [bundle.place?_of_ne_service (by decide)]
  cases found : bundle.metadata? .database with
  | none => rfl
  | some metadata =>
    rw [found] at own
    -- The database decides the fallback of the bundle, so its own place does not depend on it.
    have same : bundle.namespaceName = metadata.namespaceOr defaultNamespace := own
    rw [Option.map_some, Option.map_some, same, Metadata.namespaceOr_namespaceOr]
    rfl

/-- A record is taken to lie in its own namespace or else in that of its bundle. -/
theorem place?_of_record {step : Step} (plain : step ≠ .service) {record : step.kind.Record}
    (found : bundle.record? step = some record) :
    bundle.place? step = some ⟨(step.kind.metadata record).namespaceOr bundle.namespaceName,
      (step.kind.metadata record).effectiveName⟩ := by
  rw [bundle.place?_of_ne_service plain, metadata?, found, Option.map_some, Option.map_some]

/-- A service lies beside its database. -/
theorem place?_service (bundle : Bundle) :
    bundle.place? .service = (bundle.place? .database).map fun place =>
      ⟨place.namespaceName, Database.serviceName place.name⟩ := by
  have beside := bundle.place?_of_ne_service (show Step.database ≠ .service by decide)
  rw [beside, Option.map_map]
  rfl

/-- The namespace of a bundle is the one that its database lies in. -/
theorem namespaceName_of_place (bundle : Bundle) :
    bundle.namespaceName
      = ((bundle.place? .database).map RecordKey.namespaceName).getD defaultNamespace := by
  -- The key of a database has the namespace that the bundle takes from it.
  rw [place?_database, Option.map_map, namespaceName_eq]
  rfl

/-- A workload lies under its own key exactly when it names its namespace or needs not to. -/
theorem place?_workload {pod : Pod} (present : bundle.workload = some pod) :
    bundle.place? .workload = some (.ofMetadata pod.metadata) ↔
      pod.metadata.namespaceName.getD "" ≠ "" ∨ bundle.namespaceName = defaultNamespace := by
  have found : bundle.metadata? .workload = some pod.metadata := by
    simp [metadata?, record?, present, Kind.metadata]
  -- The two keys have one name, so they can only differ in the fallback of the namespace.
  rw [bundle.place?_of_ne_service (by decide), found, Option.map_some, Option.some_inj,
    RecordKey.ofMetadata, RecordKey.mk.injEq, and_iff_left rfl, Metadata.namespaceOr_eq_iff]

/-- A prepared record is submitted to the place of the record that it was made from. -/
theorem key_of_prepared (ready : bundle.prepare environment = (.ok (), prepared)) (step : Step)
    (listed : step ∈ Step.submissions) (record : step.kind.Record)
    (found : prepared.record? step = some record) :
    bundle.place? step = some (.ofMetadata (step.kind.metadata record)) := by
  have kept := prepare_metadata? ready step
  rw [metadata?, found, Option.map_some] at kept
  obtain ⟨original, present, filled⟩ := Option.map_eq_some_iff.mp kept.symm
  -- The namespace that was filled in is the one that the place was computed with.
  rw [← filled, RecordKey.ofMetadata,
    Metadata.namespaceOr_of_withNamespace _ bundle.namespaceName_ne_empty]
  cases step with
  | service => simp [Step.submissions] at listed
  | _ => simp [place?, present]

/-- A record that is submitted goes to a key of the bundle. -/
theorem owns_of_prepared (ready : bundle.prepare environment = (.ok (), prepared))
    (submits : step ∈ Step.submissions) {record : step.kind.Record}
    (found : prepared.record? step = some record) :
    bundle.Owns step.kind (.ofMetadata (step.kind.metadata record)) := by
  -- Each record that is submitted is one that deprovisioning deletes.
  have removed : step ∈ Step.databaseRemovals ++ Step.otherRemovals := by
    cases step <;> simp [Step.submissions, Step.databaseRemovals, Step.otherRemovals] at submits ⊢
  exact ⟨step, removed, rfl, key_of_prepared ready step submits record found⟩

end Bundle

/-- The record that a wait leaves lies under the key that the submitted one was meant for. -/
theorem StatusWait.key_of_last {kind : Kind} (wait : StatusWait kind)
    (rule : ∀ record, wait.namespaceName record
      = (kind.metadata record).namespaceOr defaultNamespace)
    {start last : RecordMap} {exchanges : Exchanges} {submitted : kind.Record}
    {replies : List (Except Error kind.Record)} (serves : start.Serves exchanges last)
    (keyed : start.WellKeyed)
    (listed : ∀ exchange ∈ wait.fetches (some submitted) replies, exchange ∈ exchanges) :
    RecordKey.ofMetadata (kind.metadata (lastFetched submitted replies))
      = .ofMetadata (kind.metadata submitted) := by
  rcases lastFetched_mem submitted replies with same | fetched
  · rw [same]
  · -- What was fetched lay where the submitted record was asked for.
    have exchanged := listed ⟨wait.asked submitted, .ok (lastFetched submitted replies)⟩
      (List.mem_map.mpr ⟨_, fetched, rfl⟩)
    rw [serves.key_of_fetched keyed exchanged, rule, RecordKey.of_namespaceOr]

/-- A record that a wait fetched last lies under the key of the submitted one after the run, its status
apart, if the run deletes nothing. -/
theorem StatusWait.view_of_last {kind : Kind} (wait : StatusWait kind)
    (rule : ∀ record, wait.namespaceName record
      = (kind.metadata record).namespaceOr defaultNamespace)
    {start last : RecordMap} {exchanges : Exchanges} {submitted : kind.Record}
    {replies : List (Except Error kind.Record)} (serves : start.Serves exchanges last)
    (undeleted : ∀ exchange ∈ exchanges, ∀ key, ¬ exchange.call.Deletes kind key)
    (listed : ∀ exchange ∈ wait.fetches (some submitted) replies, exchange ∈ exchanges)
    (fetched : .ok (lastFetched submitted replies) ∈ replies) :
    last.view kind (.ofMetadata (kind.metadata submitted))
      = some (kind.withoutStatus (lastFetched submitted replies)) := by
  have exchanged := listed ⟨wait.asked submitted, .ok (lastFetched submitted replies)⟩
    (List.mem_map.mpr ⟨_, fetched, rfl⟩)
  have seen := serves.view_of_fetched (fun other among => undeleted other among _) exchanged
  rwa [rule, RecordKey.of_namespaceOr] at seen

section Left

variable {environment : Environment} {timings : Timings} {bundle prepared : Bundle}
  {replies : ProvisionReplies} {start last : RecordMap}

/-- The fetches of the database are exchanges of the run. -/
theorem ProvisionReplies.mem_of_database_fetch {exchange : Exchange Call.interface}
    (fetched : exchange ∈
      (StatusWait.databaseReady timings).fetches prepared.database replies.databases) :
    exchange ∈ replies.exchanges timings prepared := by
  refine Exchanges.mem_of_mem_ofStore ?_
  rw [ofStore_exchanges]
  exact List.mem_append_left _ (List.mem_append_right _ fetched)

/-- The fetches of the workload are exchanges of the run. -/
theorem ProvisionReplies.mem_of_workload_fetch {exchange : Exchange Call.interface}
    (fetched : exchange ∈
      (StatusWait.workloadRunning timings).fetches prepared.workload replies.pods) :
    exchange ∈ replies.exchanges timings prepared := by
  refine Exchanges.mem_of_mem_ofStore ?_
  rw [ofStore_exchanges]
  exact List.mem_append_right _ fetched

/-- The bundle that is left has the records that the prepared one has. -/
theorem ProvisionReplies.left_isEmpty (replies : ProvisionReplies) :
    (replies.left prepared).isEmpty = prepared.isEmpty := by
  simp [left, Bundle.isEmpty]

/-- Of the cluster, provisioning asks only for submissions of prepared records and for fetches. -/
theorem ProvisionReplies.store_calls {exchange : Exchange Call.interface}
    (listed : exchange ∈ replies.exchanges timings prepared)
    (store : exchange.call.isStoreCall = true) :
    (∃ step ∈ Step.submissions, ∃ record, prepared.record? step = some record
        ∧ exchange = ⟨.create step.kind record, replies.submissions step⟩)
      ∨ ∃ kind namespaceName name, exchange.call = .fetch kind namespaceName name := by
  -- A wait, if there is one, makes no calls to the cluster but its fetches.
  have fetching {kind : Kind} (wait : StatusWait kind) {submitted : Option kind.Record}
      {answers : List (Except Error kind.Record)}
      (fetched : exchange ∈ wait.fetches submitted answers) :
      ∃ kind namespaceName name, exchange.call = .fetch kind namespaceName name := by
    cases submitted with
    | none => cases fetched
    | some submitted =>
      obtain ⟨reply, _, rfl⟩ := List.mem_map.mp fetched
      exact ⟨_, _, _, rfl⟩
  have seen := Exchanges.mem_ofStore listed store
  rw [ofStore_exchanges, List.mem_append, List.mem_append] at seen
  rcases seen with (submitting | readying) | starting
  · obtain ⟨step, among, found⟩ := List.mem_filterMap.mp submitting
    obtain ⟨record, present, rfl⟩ := Option.map_eq_some_iff.mp found
    exact Or.inl ⟨step, among, record, present, rfl⟩
  · exact Or.inr (fetching _ readying)
  · exact Or.inr (fetching _ starting)

/-- Provisioning deletes nothing. -/
theorem ProvisionReplies.not_deletes {exchange : Exchange Call.interface}
    (listed : exchange ∈ replies.exchanges timings prepared) (kind : Kind) (key : RecordKey) :
    ¬ exchange.call.Deletes kind key := by
  -- A submission is no deletion, and neither is a fetch.
  intro deletes
  rcases replies.store_calls listed deletes.isStoreCall with ⟨_, _, _, _, rfl⟩ | ⟨_, _, _, fetches⟩
  · exact deletes
  · rw [fetches] at deletes
    exact deletes

/-- Provisioning submits records to keys of the bundle only. -/
theorem ProvisionReplies.owns_of_creates (ready : bundle.prepare environment = (.ok (), prepared))
    {exchange : Exchange Call.interface} (listed : exchange ∈ replies.exchanges timings prepared)
    {kind : Kind} {key : RecordKey} (creates : exchange.call.Creates kind key) :
    bundle.Owns kind key := by
  -- The other calls are requests, which create nothing.
  rcases replies.store_calls listed creates.isStoreCall with
    ⟨step, among, record, found, rfl⟩ | ⟨_, _, _, fetches⟩
  · obtain ⟨rfl, rfl⟩ := creates
    exact Bundle.owns_of_prepared ready among found
  · rw [fetches] at creates
    exact creates.elim

/-- A completed step had its submission accepted. -/
theorem ProvisionReplies.accepted_of_completed {step : Step} (submitted : step ∈ Step.submissions)
    {record : step.kind.Record} (found : prepared.record? step = some record)
    (completed : replies.outcome timings prepared step = .completed) :
    ∃ accepted, ⟨.create step.kind record, .ok accepted⟩ ∈ replies.exchanges timings prepared := by
  have present : prepared.record? step ≠ none := by
    rw [found]
    exact Option.some_ne_none record
  rw [replies.outcome_submission timings prepared submitted present, Outcome.ofResult_eq_completed]
    at completed
  obtain ⟨accepted, replied⟩ := completed
  -- The submission is among the first calls of the run.
  refine ⟨accepted, Exchanges.mem_of_mem_ofStore ?_⟩
  rw [ofStore_exchanges, ← replied]
  refine List.mem_append_left _ (List.mem_append_left _ (List.mem_filterMap.mpr ?_))
  exact ⟨step, submitted, Option.map_eq_some_iff.mpr ⟨record, found, rfl⟩⟩

/-- The record of a completed step lies under its key after the run. -/
theorem ProvisionReplies.view_of_completed
    (serves : start.Serves (replies.exchanges timings prepared) last) {step : Step}
    (submitted : step ∈ Step.submissions) {record : step.kind.Record}
    (found : prepared.record? step = some record)
    (completed : replies.outcome timings prepared step = .completed) :
    last.view step.kind (.ofMetadata (step.kind.metadata record))
      = some (step.kind.withoutStatus record) := by
  obtain ⟨accepted, listed⟩ := accepted_of_completed submitted found completed
  exact serves.view_of_created (fun other among => not_deletes among _ _) listed

/-- The record of a completed step lies at the place that its bundle gave it. -/
theorem ProvisionReplies.view_at_place (ready : bundle.prepare environment = (.ok (), prepared))
    (serves : start.Serves (replies.exchanges timings prepared) last) {step : Step}
    (submitted : step ∈ Step.submissions)
    (completed : replies.outcome timings prepared step = .completed) {place : RecordKey}
    (here : bundle.place? step = some place) {record : step.kind.Record}
    (found : prepared.record? step = some record) :
    last.view step.kind place = some (step.kind.withoutStatus record) := by
  have own := Bundle.key_of_prepared ready step submitted record found
  rw [here, Option.some_inj] at own
  rw [own]
  exact view_of_completed serves submitted found completed

/-- The database that is left lies where the submitted one does, if that was accepted. -/
theorem ProvisionReplies.left_database_key_of_completed
    (serves : start.Serves (replies.exchanges timings prepared) last)
    (completed : replies.outcome timings prepared .database = .completed) :
    ((replies.left prepared).metadata? .database).map RecordKey.ofMetadata
      = (prepared.metadata? .database).map .ofMetadata := by
  cases present : prepared.database with
  | none => simp [left, Bundle.metadata?, Bundle.record?, present]
  | some database =>
    have same : (lastFetched database replies.databases).metadata = database.metadata := by
      rcases lastFetched_mem database replies.databases with submitted | fetched
      · rw [submitted]
      · -- What was fetched and what was accepted lie under one key, so they are one record.
        have seen := (StatusWait.databaseReady timings).view_of_last (fun _ => rfl) serves
          (fun other among => not_deletes among .database)
          (fun exchange listed => mem_of_database_fetch (by rw [present]; exact listed)) fetched
        have submitted : Step.database ∈ Step.submissions := by decide
        have kept := view_of_completed serves submitted present completed
        have one : Kind.database.withoutStatus (lastFetched database replies.databases)
            = Kind.database.withoutStatus database := Option.some.inj (seen.symm.trans kept)
        have described := congrArg Database.metadata one
        exact described
    simp [left, Bundle.metadata?, Bundle.record?, present, Kind.metadata, same]

/-- The bundle that is left has the places of the given one, except perhaps that of its workload, if
its database has kept its key. -/
theorem ProvisionReplies.left_place?_of_database
    (ready : bundle.prepare environment = (.ok (), prepared))
    (same : ((replies.left prepared).metadata? .database).map RecordKey.ofMetadata
      = (prepared.metadata? .database).map .ofMetadata) {step : Step}
    (removed : step ∈ Step.databaseRemovals ++ Step.otherRemovals) (other : step ≠ .workload) :
    (replies.left prepared).place? step = bundle.place? step := by
  rw [← Bundle.prepare_place? ready step]
  -- With its key the database keeps the namespace that the bundle falls back on.
  have database : (replies.left prepared).place? .database = prepared.place? .database := by
    rw [Bundle.place?_database, Bundle.place?_database, same]
  have target : (replies.left prepared).namespaceName = prepared.namespaceName := by
    rw [Bundle.namespaceName_of_place, Bundle.namespaceName_of_place prepared, database]
  -- A record that no wait touched keeps its place, since the fallback is the same.
  have kept {step : Step} (plain : step ≠ .service)
      (same : (replies.left prepared).metadata? step = prepared.metadata? step) :
      (replies.left prepared).place? step = prepared.place? step := by
    rw [Bundle.place?_of_ne_service _ plain, Bundle.place?_of_ne_service _ plain, same, target]
  cases step with
  | service => rw [Bundle.place?_service, Bundle.place?_service, database]
  | database => exact database
  | server => exact kept (by decide) rfl
  | serverSecret => exact kept (by decide) rfl
  | databaseSecret => exact kept (by decide) rfl
  | workload => contradiction
  | databaseReady | workloadRunning | databaseDeleted =>
    simp [Step.databaseRemovals, Step.otherRemovals] at removed

variable (ready : bundle.prepare environment = (.ok (), prepared))
  (serves : start.Serves (replies.exchanges timings prepared) last) (keyed : start.WellKeyed)

include serves keyed

/-- The database that is left lies where the submitted one was to lie. -/
theorem ProvisionReplies.left_database_key :
    ((replies.left prepared).metadata? .database).map RecordKey.ofMetadata
      = (prepared.metadata? .database).map .ofMetadata := by
  -- The last record that was fetched lies where it was fetched from.
  cases present : prepared.database with
  | none => simp [left, Bundle.metadata?, Bundle.record?, present]
  | some database =>
    have same := (StatusWait.databaseReady timings).key_of_last (fun _ => rfl) serves keyed
      fun exchange fetched => mem_of_database_fetch (by rw [present]; exact fetched)
    simpa [left, Bundle.metadata?, Bundle.record?, present] using same

/-- The workload that is left lies where the submitted one was to lie. -/
theorem ProvisionReplies.left_workload_key {pod : Pod} (present : prepared.workload = some pod) :
    RecordKey.ofMetadata (lastFetched pod replies.pods).metadata = .ofMetadata pod.metadata := by
  exact (StatusWait.workloadRunning timings).key_of_last (fun _ => rfl) serves keyed
    fun exchange fetched => mem_of_workload_fetch (by rw [present]; exact fetched)

include ready

/-- The bundle that is left has the same places, except perhaps that of its workload. -/
theorem ProvisionReplies.left_place? {step : Step}
    (removed : step ∈ Step.databaseRemovals ++ Step.otherRemovals) (other : step ≠ .workload) :
    (replies.left prepared).place? step = bundle.place? step :=
  left_place?_of_database ready (left_database_key serves keyed) removed other

/-- The workload of the bundle that is left has the same place exactly when it still names its
namespace or needs not to. -/
theorem ProvisionReplies.left_place?_workload :
    (replies.left prepared).place? .workload = bundle.place? .workload ↔
      (replies.left prepared).WorkloadPlaced := by
  cases present : prepared.workload with
  | none =>
    -- Without a workload there is no place on either side.
    have absent : bundle.metadata? .workload = none := by
      rw [Bundle.metadata?_eq_none, ← Bundle.prepare_record?_eq_none ready]
      exact present
    have gone : (replies.left prepared).workload = none := by simp [left, present]
    refine iff_of_true ?_ fun pod found => ?_
    · rw [Bundle.place?_of_ne_service _ (by decide), Bundle.place?_of_ne_service _ (by decide), absent]
      simp [Bundle.metadata?, Bundle.record?, gone]
    · rw [gone] at found
      cases found
  | some pod =>
    have kept : (replies.left prepared).workload = some (lastFetched pod replies.pods) := by
      simp [left, present]
    have placed := Bundle.key_of_prepared ready .workload (by decide) pod present
    -- The place was that of the submitted workload; the one that is left has the same key.
    rw [placed]
    have same : RecordKey.ofMetadata (Kind.pod.metadata pod)
        = .ofMetadata (lastFetched pod replies.pods).metadata :=
      (left_workload_key serves keyed present).symm
    rw [same, Bundle.place?_workload kept]
    constructor
    · intro named other found
      rw [kept, Option.some_inj] at found
      rwa [← found]
    · intro settled
      exact settled _ kept

end Left

end DatabaseLifecycle

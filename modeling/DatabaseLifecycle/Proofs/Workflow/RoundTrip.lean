import DatabaseLifecycle.Proofs.Workflow.Deprovision
import DatabaseLifecycle.Proofs.Workflow.Placement

/-!
Round trips: in a cluster that keeps its records in a map, deprovisioning clears exactly the keys of a
bundle and so undoes what provisioning did.
-/

namespace DatabaseLifecycle

section Removal

variable {budget : Budget} {target : Bundle} {replies : DeprovisionReplies} {start last : RecordMap}

/-- Of the cluster, deprovisioning asks only for deletions at the bundle's places and for the database. -/
theorem DeprovisionReplies.store_calls {exchange : Exchange Call.interface}
    (listed : exchange ∈ replies.exchanges budget target)
    (store : exchange.call.isStoreCall = true) :
    (∃ step ∈ Step.databaseRemovals ++ Step.otherRemovals, ∃ place,
        target.place? step = some place
        ∧ exchange = ⟨.delete step.kind place.namespaceName place.name, replies.removals step⟩)
      ∨ ∃ place, target.place? .database = some place
        ∧ exchange.call = Workflow.askedGone place := by
  -- The deletions before the wait and those after it are read off the same way.
  have removing {steps : List Step} (removed : exchange ∈ replies.removed target steps) :
      ∃ step ∈ steps, ∃ place, target.place? step = some place
        ∧ exchange = ⟨.delete step.kind place.namespaceName place.name, replies.removals step⟩ := by
    obtain ⟨step, among, found⟩ := List.mem_filterMap.mp removed
    obtain ⟨place, here, rfl⟩ := Option.map_eq_some_iff.mp found
    exact ⟨step, among, place, here, rfl⟩
  have seen := Exchanges.mem_ofStore listed store
  rw [ofStore_exchanges, List.mem_append, List.mem_append] at seen
  rcases seen with (early | waiting) | late
  · obtain ⟨step, among, deleted⟩ := removing early
    exact Or.inl ⟨step, List.mem_append_left _ among, deleted⟩
  · cases here : target.place? .database with
    | none =>
      rw [here] at waiting
      cases waiting
    | some place =>
      rw [here] at waiting
      obtain ⟨reply, _, rfl⟩ := List.mem_map.mp waiting
      exact Or.inr ⟨place, rfl, rfl⟩
  · obtain ⟨step, among, deleted⟩ := removing late
    exact Or.inl ⟨step, List.mem_append_right _ among, deleted⟩

/-- Deprovisioning submits nothing. -/
theorem DeprovisionReplies.not_creates {exchange : Exchange Call.interface}
    (listed : exchange ∈ replies.exchanges budget target) (kind : Kind) (key : RecordKey) :
    ¬ exchange.call.Creates kind key := by
  -- A deletion is no submission, and neither is a fetch.
  intro creates
  rcases replies.store_calls listed creates.isStoreCall with ⟨_, _, _, _, rfl⟩ | ⟨_, _, fetches⟩
  · exact creates
  · rw [fetches] at creates
    exact creates

/-- Deprovisioning deletes keys of the bundle only. -/
theorem DeprovisionReplies.owns_of_deletes {exchange : Exchange Call.interface}
    (listed : exchange ∈ replies.exchanges budget target) {kind : Kind} {key : RecordKey}
    (deletes : exchange.call.Deletes kind key) : target.Owns kind key := by
  -- The other calls are the requests that wait for a record to be gone.
  rcases replies.store_calls listed deletes.isStoreCall with
    ⟨step, among, place, here, rfl⟩ | ⟨_, _, fetches⟩
  · obtain ⟨rfl, rfl⟩ := deletes
    exact ⟨step, among, rfl, by rw [Bundle.of_place here, here]⟩
  · rw [fetches] at deletes
    exact deletes.elim

/-- A step with a place deletes what lies there. -/
theorem DeprovisionReplies.mem_removals {step : Step} {steps : List Step} {place : RecordKey}
    (listed : step ∈ steps) (here : target.place? step = some place) :
    ⟨.delete step.kind place.namespaceName place.name, replies.removals step⟩
      ∈ steps.flatMap (replies.removal target) := by
  refine Exchanges.mem_of_mem_ofStore ?_
  rw [ofStore_removals]
  exact List.mem_filterMap.mpr ⟨step, listed, Option.map_eq_some_iff.mpr ⟨place, here, rfl⟩⟩

/-- Each place of the bundle is deleted from. -/
theorem DeprovisionReplies.deletes_place {step : Step} {place : RecordKey}
    (among : step ∈ Step.databaseRemovals ++ Step.otherRemovals)
    (here : target.place? step = some place) :
    ⟨.delete step.kind place.namespaceName place.name, replies.removals step⟩
      ∈ replies.exchanges budget target := by
  rcases List.mem_append.mp among with early | late
  · exact List.mem_append_left _ (List.mem_append_left _ (mem_removals early here))
  · exact List.mem_append_right _ (mem_removals late here)

variable (serves : start.Serves (replies.exchanges budget target) last)

include serves

/-- After deprovisioning no key of the bundle is taken. -/
theorem DeprovisionReplies.clears {kind : Kind} {key : RecordKey} (owned : target.Owns kind key) :
    last.view kind key = none := by
  -- The key is the place of some step, which deletes it; nothing is submitted anywhere.
  obtain ⟨step, among, rfl, here⟩ := owned
  exact serves.free_of_deleted (fun other listed => not_creates listed _ _)
    (deletes_place among here) ⟨rfl, Bundle.of_place here⟩

/-- Deprovisioning leaves all other keys alone. -/
theorem DeprovisionReplies.keeps {kind : Kind} {key : RecordKey} (other : ¬ target.Owns kind key) :
    last.view kind key = start.view kind key :=
  serves.view_eq fun _ listed =>
    ⟨not_creates listed kind key, fun deletes => other (owns_of_deletes listed deletes)⟩

/-- Every deletion succeeds. -/
theorem DeprovisionReplies.removals_ok {step : Step} {place : RecordKey}
    (among : step ∈ Step.databaseRemovals ++ Step.otherRemovals)
    (here : target.place? step = some place) : replies.removals step = .ok () :=
  serves.reply_of_delete (deletes_place among here)

/-- The wait for the deletion finds nothing. -/
theorem DeprovisionReplies.gone {place : RecordKey} (here : target.place? .database = some place)
    (fits : TakenFor Workflow.isGone budget.limit (some place) replies.databases) :
    Workflow.endedGone place.name replies.databases = .ok () := by
  have uncreated (exchange : Exchange Call.interface)
      (listed : exchange ∈ replies.exchanges budget target) :=
    not_creates listed .database (.of place.namespaceName place.name)
  rw [exchanges] at serves uncreated
  obtain ⟨settled, serves, _⟩ := RecordMap.serves_append.mp serves
  obtain ⟨cleared, removing, waiting⟩ := RecordMap.serves_append.mp serves
  -- The database was deleted before the wait, so no fetch can have found it.
  have free : cleared.view .database (.of place.namespaceName place.name) = none :=
    removing.free_of_deleted
      (fun other listed => uncreated other (List.mem_append_left _ (List.mem_append_left _ listed)))
      (mem_removals (List.mem_cons_of_mem _ List.mem_cons_self) here) ⟨rfl, rfl⟩
  have unfound (fetched : Database) : .ok fetched ∉ replies.databases := by
    intro listed
    refine waiting.reply_of_fetch
      (fun other among => uncreated other (List.mem_append_left _ (List.mem_append_right _ among)))
      free fetched (Exchanges.mem_of_mem_ofStore ?_)
    rw [Workflow.ofStore_goneExchanges, here]
    exact List.mem_map.mpr ⟨_, listed, rfl⟩
  cases fits with
  | present taken =>
    -- The last reply is thus an error, which counts as gone.
    have last := List.getLast?_eq_some_getLast taken.ne_nil
    have member := List.getLast_mem taken.ne_nil
    rw [Workflow.endedGone, last, Option.map_some, Option.getD_some]
    cases replied : replies.databases.getLast taken.ne_nil with
    | error error => rfl
    | ok fetched =>
      rw [replied] at member
      exact absurd member (unfound fetched)

/-- No step of deprovisioning fails. -/
theorem DeprovisionReplies.report_clean
    (fits : TakenFor Workflow.isGone budget.limit (target.place? .database) replies.databases) :
    (replies.report target).isClean = true ∧ (replies.report target).error = none := by
  -- Either there was nothing to wait for or the wait succeeded.
  have waited : Workflow.goneResult? (target.place? .database) replies.databases = none
      ∨ Workflow.goneResult? (target.place? .database) replies.databases = some (.ok ()) := by
    cases here : target.place? .database with
    | none => exact Or.inl rfl
    | some place =>
      rw [here] at fits
      exact Or.inr (congrArg some (gone serves here fits))
  constructor
  · refine Report.isClean_of_steps rfl fun step listed => ?_
    -- Deletions succeed, so their steps are completed or skipped.
    have removed (among : step ∈ Step.databaseRemovals ++ Step.otherRemovals) :
        (Outcome.ofOptional (target.place? step) (replies.removals step)).isFailed = false := by
      cases here : target.place? step with
      | none => rfl
      | some place =>
        rw [removals_ok serves among here]
        rfl
    cases step with
    | databaseDeleted =>
      rw [outcome]
      rcases waited with absent | ended
      · rw [absent]
        rfl
      · rw [ended]
        rfl
    | databaseReady | workloadRunning =>
      simp [Step.deprovisioning, Step.databaseRemovals, Step.otherRemovals] at listed
    | _ => exact removed (by decide)
  · rw [report]
    rcases waited with absent | ended
    · rw [absent]
      rfl
    · rw [ended]
      rfl

end Removal

section Submission

variable {environment : Environment} {timings : Timings} {bundle prepared : Bundle}
  {replies : ProvisionReplies} {start last : RecordMap}
  (ready : bundle.prepare environment = (.ok (), prepared))
  (serves : start.Serves (replies.exchanges timings prepared) last)

include ready serves

/-- Provisioning leaves the keys of other bundles alone. -/
theorem ProvisionReplies.keeps {kind : Kind} {key : RecordKey} (other : ¬ bundle.Owns kind key) :
    last.view kind key = start.view kind key :=
  serves.view_eq fun _ listed =>
    ⟨fun creates => other (owns_of_creates ready listed creates), not_deletes listed kind key⟩

/-- When every submission was accepted, the keys of the bundle's records were free before. -/
theorem ProvisionReplies.free_of_completed
    (completed : ∀ step ∈ Step.submissions, bundle.record? step ≠ none →
      replies.outcome timings prepared step = .completed)
    {kind : Kind} {key : RecordKey} (owned : bundle.Owns kind key) (plain : kind ≠ .service) :
    start.view kind key = none := by
  obtain ⟨step, among, rfl, here⟩ := owned
  -- All removals but that of the service have a submission.
  have submitted : step ∈ Step.submissions := by
    cases step <;>
      simp [Step.submissions, Step.databaseRemovals, Step.otherRemovals] at among plain ⊢
  have named : bundle.record? step ≠ none := by
    intro absent
    rw [← Bundle.metadata?_eq_none] at absent
    rw [bundle.place?_of_ne_service (fun same => plain (congrArg Step.kind same)), absent] at here
    cases here
  have kept := mt (Bundle.prepare_record?_eq_none ready step).mp named
  obtain ⟨record, found⟩ := Option.ne_none_iff_exists'.mp kept
  -- The step was completed, so its submission was accepted at the key in question.
  obtain ⟨accepted, exchanged⟩ :=
    accepted_of_completed submitted found (completed step submitted named)
  have same := Bundle.key_of_prepared ready step submitted record found
  rw [here, Option.some_inj] at same
  rw [same]
  exact serves.free_of_created (fun other listed => not_deletes listed _ _) exchanged

/-- A workload that is left without a namespace was fetched from its place, and it still lies there. -/
theorem ProvisionReplies.taken_of_misplaced
    (misplaced : ¬ (replies.left prepared).WorkloadPlaced) :
    ∃ key, bundle.place? .workload = some key ∧ last.view .pod key ≠ none := by
  cases present : prepared.workload with
  | none =>
    have gone : (replies.left prepared).workload = none := by simp [left, present]
    refine absurd (fun pod found => ?_) misplaced
    rw [gone] at found
    cases found
  | some pod =>
    have kept : (replies.left prepared).workload = some (lastFetched pod replies.pods) := by
      simp [left, present]
    have here := Bundle.key_of_prepared ready .workload (by decide) pod present
    refine ⟨_, here, ?_⟩
    rcases lastFetched_mem pod replies.pods with same | fetched
    · -- The submitted workload names its namespace.
      refine absurd (fun other found => Or.inl ?_) misplaced
      rw [kept, same, Option.some_inj] at found
      have filled := Bundle.prepare_metadata? ready .workload
      have own : prepared.metadata? .workload = some other.metadata := by
        simp [Bundle.metadata?, Bundle.record?, present, Kind.metadata, found]
      rw [own] at filled
      obtain ⟨original, _, named⟩ := Option.map_eq_some_iff.mp filled.symm
      rw [← named]
      exact original.namespaceOr_ne_empty bundle.namespaceName_ne_empty
    · -- A fetched workload lay where the submitted one was asked for, and provisioning deletes nothing.
      have seen := (StatusWait.workloadRunning timings).view_of_last (fun _ => rfl) serves
        (fun other among => not_deletes among .pod)
        (fun exchange listed => mem_of_workload_fetch (by rw [present]; exact listed)) fetched
      exact Option.ne_none_iff_exists'.mpr ⟨_, seen⟩

end Submission

/-- One attempt for each wait. -/
def singleAttempts : Timings := ⟨⟨0, 1⟩, ⟨0, 1⟩, ⟨0, 1⟩⟩

/-- A running workload that names no namespace. -/
def strayWorkload : Pod where
  metadata := { name := some "app" }
  status := some (some Pod.runningPhase)

/-- A cluster with that workload alone. -/
def strayRecords : RecordMap :=
  RecordMap.empty.insert .pod (.ofMetadata strayWorkload.metadata) strayWorkload

/-- A bundle for another namespace, with a workload of the same name in the default one. -/
def strayBundle : Bundle where
  database := some {
    metadata := { name := some "orders", namespaceName := some "shop" }
    spec := ⟨"cp", .fresh { name := "orders", credentialSecret := "orders-db", type := "postgres" }⟩ }
  workload := some { metadata := { name := some "app", namespaceName := some defaultNamespace } }

/-- The stray workload lies under its own key. -/
theorem wellKeyed_strayRecords : strayRecords.WellKeyed := by
  have created : RecordMap.empty.Answers (.create .pod strayWorkload) (.ok strayWorkload)
      strayRecords := ⟨rfl, rfl⟩
  exact RecordMap.wellKeyed_empty.of_answers created

/-- A store in which the keys of a bundle have been cleared and nothing else has changed but statuses. -/
structure Undone (bundle : Bundle) (start last : RecordMap) : Prop where
  /-- No key of the bundle is taken. -/
  cleared : ∀ kind key, bundle.Owns kind key → last.get? kind key = none
  /-- All other keys are as they were. -/
  kept : ∀ kind key, ¬ bundle.Owns kind key → last.view kind key = start.view kind key

section Undoing

variable {environment : Environment} {timings : Timings} {bundle prepared : Bundle}
  {replies : ProvisionReplies} {start submitted last : RecordMap}
  (ready : bundle.prepare environment = (.ok (), prepared))
  (serves : start.Serves (replies.exchanges timings prepared) submitted)

include ready serves

/-- Clearing a bundle undoes the submissions of another whose workload has the same place. -/
theorem Undone.of_same_places {target : Bundle} (cleared : Undone target submitted last)
    (keyed : start.WellKeyed) (known : target = bundle ∨ target = replies.left prepared)
    (same : target.place? .workload = bundle.place? .workload) : Undone bundle start last := by
  -- All other places agree in any case, so the two bundles own the same keys.
  have owns : ∀ kind key, target.Owns kind key ↔ bundle.Owns kind key := by
    refine Bundle.owns_congr fun step among => ?_
    rcases known with rfl | rfl
    · rfl
    · by_cases workload : step = .workload
      · rw [workload, same]
      · exact ProvisionReplies.left_place? ready serves keyed among workload
  constructor
  · intro kind key owned
    exact cleared.cleared kind key ((owns kind key).mpr owned)
  · intro kind key other
    rw [cleared.kept kind key (mt (owns kind key).mp other),
      ProvisionReplies.keeps ready serves other]

/-- When every submission was accepted, undoing them restores all records but services. -/
theorem Undone.restores (undone : Undone bundle start last)
    (completed : ∀ step ∈ Step.submissions, bundle.record? step ≠ none →
      replies.outcome timings prepared step = .completed)
    {kind : Kind} {key : RecordKey} (plain : kind ≠ .service) :
    last.view kind key = start.view kind key := by
  by_cases owned : bundle.Owns kind key
  · -- The key was free before provisioning, and it is free again.
    rw [ProvisionReplies.free_of_completed ready serves completed owned plain,
      RecordMap.view_eq_none]
    exact undone.cleared kind key owned
  · exact undone.kept kind key owned

end Undoing

namespace Workflow

variable {σ : Type} {handle : Program.Handler Call.interface σ} {records : σ → RecordMap}

/-- In a cluster that keeps its records in a map, deprovisioning clears the keys of a bundle, leaves
all others, and has nothing to complain of. -/
theorem deprovision_clears (kept : RecordMap.KeptBy handle records) (state : σ) (timings : Timings)
    {bundle : Bundle} (present : bundle.isEmpty = false) :
    ∃ (cleanup : Report) (last : σ),
      (deprovision timings bundle).run handle state = (.ok cleanup, last)
      ∧ cleanup.isClean = true ∧ cleanup.result = .ok cleanup
      ∧ Undone bundle (records state) (records last) := by
  -- The calls of the run are those of the closed form, and the store answers each of them.
  have runs := Program.runs_transcript handle (deprovision timings bundle) state
  have serves := RecordMap.serves_transcript kept (deprovision timings bundle) state
  obtain ⟨replies, fits, exchanged, ended⟩ := runs_deprovision present runs
  rw [exchanged] at serves
  obtain ⟨clean, unfailed⟩ := replies.report_clean serves fits
  refine ⟨replies.report bundle, _, Prod.ext ended rfl, clean, ?_, ?_, ?_⟩
  · rw [Report.result, unfailed]
  · intro kind key owned
    exact RecordMap.view_eq_none.mp (DeprovisionReplies.clears serves owned)
  · intro kind key other
    exact DeprovisionReplies.keeps serves other

/-- A workload that lies elsewhere than where the bundle has it is not cleared. -/
theorem deprovision_misses (kept : RecordMap.KeptBy handle records) (state : σ) (timings : Timings)
    {bundle : Bundle} (present : bundle.isEmpty = false) {key : RecordKey}
    (elsewhere : bundle.place? .workload ≠ some key)
    (taken : (records state).view .pod key ≠ none) :
    (records ((deprovision timings bundle).run handle state).2).view .pod key ≠ none := by
  have runs := Program.runs_transcript handle (deprovision timings bundle) state
  have serves := RecordMap.serves_transcript kept (deprovision timings bundle) state
  obtain ⟨replies, _, exchanged, _⟩ := runs_deprovision present runs
  rw [exchanged] at serves
  refine serves.stays_taken (fun exchange listed deletes => ?_) taken
  -- Only the step of the workload deletes a workload.
  obtain ⟨step, among, same, here⟩ := DeprovisionReplies.owns_of_deletes listed deletes
  cases step with
  | workload => exact elsewhere here
  | _ => simp [Step.databaseRemovals, Step.otherRemovals] at among same

/-- In a cluster that keeps its records in a map, deprovisioning undoes a provisioning that came to a
report, whatever failed in it: always when it works on the bundle as it was given, and on the bundle
that provisioning left exactly when the workload of that still names its namespace or needs not to. -/
theorem deprovision_undoes_provision (kept : RecordMap.KeptBy handle records) (state : σ)
    (keyed : (records state).WellKeyed) (environment : Environment) (timings later : Timings)
    (bundle : Bundle) {report : Report} {left : Bundle} {provisioned : σ}
    (ran : (provision environment timings bundle).run handle state
      = ((.ok report, left), provisioned))
    (target : Bundle) (known : target = bundle ∨ target = left) :
    ∃ (cleanup : Report) (last : σ),
      (deprovision later target).run handle provisioned = (.ok cleanup, last)
      ∧ cleanup.isClean = true ∧ cleanup.result = .ok cleanup
      ∧ (Undone bundle (records state) (records last) ↔ target = bundle ∨ left.WorkloadPlaced)
      ∧ (Undone bundle (records state) (records last) →
          (∀ step ∈ Step.submissions, bundle.record? step ≠ none →
            report.status? step = some .completed) →
          ∀ kind key, kind ≠ .service →
            (records last).view kind key = (records state).view kind key) := by
  -- A run that came to a report submitted and waited; its calls were served by the records.
  have runs := runs_provision (Program.runs_transcript handle
    (provision environment timings bundle) state)
  have serves := RecordMap.serves_transcript kept (provision environment timings bundle) state
  rw [ran] at runs serves
  generalize (provision environment timings bundle).transcript handle state = exchanges
    at runs serves
  cases runs with
  | @submitted prepared replies present ready fits =>
    have placed := ProvisionReplies.left_place?_workload ready serves keyed
    have filled : target.isEmpty = false := by
      rcases known with rfl | rfl
      · exact present
      · rw [replies.left_isEmpty, Bundle.prepare_isEmpty ready, present]
    obtain ⟨cleanup, last, ended, clean, result, cleared⟩ :=
      deprovision_clears kept provisioned later filled
    -- Where the places agree, what is cleared is what was submitted to.
    have undone (same : target.place? .workload = bundle.place? .workload) :
        Undone bundle (records state) (records last) :=
      cleared.of_same_places ready serves keyed known same
    refine ⟨cleanup, last, ended, clean, result, ⟨?missed, ?found⟩, ?restored⟩
    case missed =>
      intro undoing
      rcases known with rfl | rfl
      · exact Or.inl rfl
      · refine Or.inr (Classical.byContradiction fun misplaced => ?_)
        -- A misplaced workload still lies under its key, which the later run does not delete.
        obtain ⟨key, here, taken⟩ :=
          ProvisionReplies.taken_of_misplaced ready serves misplaced
        have elsewhere : (replies.left prepared).place? .workload ≠ some key := by
          rw [← here]
          exact mt placed.mp misplaced
        have remains := deprovision_misses kept provisioned later filled elsewhere taken
        rw [ended] at remains
        refine remains (RecordMap.view_eq_none.mpr (undoing.cleared .pod key ?_))
        exact ⟨.workload, by decide, rfl, here⟩
    case found =>
      rintro (rfl | settled)
      · exact undone rfl
      · rcases known with rfl | rfl
        · exact undone rfl
        · exact undone (placed.mpr settled)
    case restored =>
      intro undoing completed kind key plain
      refine undoing.restores ready serves (fun step listed named => ?_) plain
      have completes := completed step listed named
      rwa [replies.status?_report timings prepared (List.mem_append_left _ listed),
        Option.some_inj] at completes

/-- Deprovisioning the bundle as it was given undoes a provisioning that found a stray workload. -/
theorem deprovision_undoes_stray_provision :
    ∃ (cleanup : Report) (last : RecordMap),
      (deprovision singleAttempts strayBundle).run Rehearsal.plain
          ((provision {} singleAttempts strayBundle).run Rehearsal.plain strayRecords).2
        = (.ok cleanup, last)
      ∧ cleanup.isClean = true ∧ Undone strayBundle strayRecords last := by
  obtain ⟨cleanup, last, ended, clean, _, undone, _⟩ :=
    deprovision_undoes_provision Rehearsal.keptBy_plain strayRecords wellKeyed_strayRecords {}
      singleAttempts singleAttempts strayBundle rfl strayBundle (Or.inl rfl)
  exact ⟨cleanup, last, ended, clean, undone.mpr (Or.inl rfl)⟩

/-- Deprovisioning the bundle that was left misses the stray workload, which lay under a key of the
bundle and was fetched from there: it is looked for in the bundle's own namespace. -/
theorem deprovision_misses_stray_workload :
    RecordMap.KeptBy Rehearsal.plain id ∧ strayRecords.WellKeyed
      ∧ ∃ (report : Report) (left : Bundle) (provisioned : RecordMap),
        (provision {} singleAttempts strayBundle).run Rehearsal.plain strayRecords
          = ((.ok report, left), provisioned)
        ∧ strayBundle.Owns .pod ⟨"default", "app"⟩
        ∧ ((deprovision singleAttempts left).run Rehearsal.plain provisioned).2.get? .pod
          ⟨"default", "app"⟩ ≠ none :=
  ⟨Rehearsal.keptBy_plain, wellKeyed_strayRecords, _, _, _, rfl, ⟨.workload, by decide, rfl, rfl⟩,
    by decide⟩

end Workflow

end DatabaseLifecycle

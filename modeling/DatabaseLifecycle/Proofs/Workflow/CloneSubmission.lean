import DatabaseLifecycle.Proofs.Workflow.CloneSource
import DatabaseLifecycle.Proofs.Workflow.Placement
import DatabaseLifecycle.Proofs.Workflow.Refusal

/-!
Clones from their preparation to their submission: what is submitted names the source that was looked
up and a snapshot of it on the clone's own cluster.
-/

namespace DatabaseLifecycle

/-- The cause for which no clone can be prepared in a bundle that asks for none. -/
def Bundle.clonelessError (bundle : Bundle) : Error :=
  match bundle.database with
  | none => .configuration "clone preparation needs a database template"
  | some database =>
    .validation database.metadata.effectiveName "database template is not a clone"

/-- How the preparation of a bundle's clone ends, and the exchanges that it has made. -/
inductive ClonePreparation (environment : Environment) (bundle : Bundle) (source : String) :
    Exchanges → Except Error Unit × Bundle → Prop where
  | unasked (cloneless : bundle.clone? = none) :
      ClonePreparation environment bundle source
        [⟨.log (bundle.clonelessError.failureLine "prepare_clone"), ()⟩]
        (.error bundle.clonelessError, bundle)
  | unpointed {database : Database} {template : CloneSpec} {lookups : Exchanges} {error : Error}
      (present : bundle.database = some database) (mode : database.spec.mode = .clone template)
      (choice : SourceChoice (environment.placedClone template) source lookups (.error error)) :
      ClonePreparation environment bundle source
        (lookups ++ [⟨.log (error.failureLine "prepare_clone"), ()⟩])
        (.error error, { bundle with
          database := some (Workflow.withClone database (environment.placedClone template)) })
  | pointed {database : Database} {template chosen : CloneSpec} {lookups : Exchanges}
      (present : bundle.database = some database) (mode : database.spec.mode = .clone template)
      (choice : SourceChoice (environment.placedClone template) source lookups (.ok chosen)) :
      ClonePreparation environment bundle source lookups
        (.ok (), { bundle with database := some (Workflow.withClone database chosen) })

namespace Provisioned

variable {environment : Environment} {timings : Timings} {bundle : Bundle} {exchanges : Exchanges}
  {ended : Except Error Report × Bundle} {database : Database} {clone : CloneSpec}

/-- A clone is submitted on the environment's cluster and as it is given otherwise. -/
theorem mode_of_submitted (provisioned : Provisioned environment timings bundle exchanges ended)
    (present : bundle.database = some database) (mode : database.spec.mode = .clone clone)
    {record : Database} {reply : Except Error Database}
    (listed : ⟨.create .database record, reply⟩ ∈ exchanges) :
    record.spec.mode = .clone (environment.placedClone clone) := by
  cases provisioned with
  | refused empty => simp at listed
  | unprepared failed => simp at listed
  | @submitted prepared replies _ ready _ =>
    -- What is submitted comes from the filled bundle, whose clone has been placed.
    obtain rfl := (Bundle.prepare_eq_filled ready).2
    rcases replies.store_calls listed rfl with ⟨step, among, other, found, same⟩ | ⟨_, _, _, fetches⟩
    · -- Of all submissions only one is that of a database.
      cases step with
      | database =>
        cases same
        simp only [Bundle.record?, Bundle.filled, Bundle.placeDatabase, present, Option.map_some,
          Option.some_inj] at found
        rw [← found]
        exact Bundle.placed_clone environment mode
      | databaseSecret | serverSecret | server | workload => cases same
      | _ => simp [Step.submissions] at among
    · cases fetches

/-- A clone with a blank field is not submitted. -/
theorem fails_of_blank (provisioned : Provisioned environment timings bundle exchanges ended)
    (blank : bundle.blankCloneFields environment ≠ []) : ∃ error, ended.1 = .error error := by
  -- The blank fields are among the faults, so there is a first one.
  have faulty : firstFault? (bundle.provisionFaults environment) ≠ none := by
    intro faultless
    have unblank := firstFault?_eq_none.mp faultless
    simp [Bundle.provisionFaults, Bundle.preparationFaults, blank] at unblank
  obtain ⟨error, first⟩ := Option.ne_none_iff_exists'.mp faulty
  exact ⟨error, provisioned.fails_iff.mpr first⟩

end Provisioned

namespace Workflow

variable {environment : Environment} {bundle : Bundle} {source : String} {exchanges : Exchanges}

/-- A logged result is handed on together with the bundle. -/
theorem runs_logged_pair {operation : String} {result : Except Error Unit}
    {ended : Except Error Unit × Bundle} :
    (logged operation result >>= fun handed => pure (handed, bundle)).Runs exchanges ended ↔
      exchanges = failureLog operation result ∧ ended = (result, bundle) := by
  simp only [Program.runs_bind, runs_logged, Program.runs_pure]
  constructor
  · rintro ⟨_, _, _, rfl, ⟨rfl, rfl⟩, rfl, rfl⟩
    exact ⟨List.append_nil _, rfl⟩
  · rintro ⟨rfl, rfl⟩
    exact ⟨_, _, _, (List.append_nil _).symm, ⟨rfl, rfl⟩, rfl, rfl⟩

/-- The preparation of a clone ends in one of these ways. -/
theorem runs_prepareClone {ended : Except Error Unit × Bundle}
    (runs : (prepareClone environment bundle source).Runs exchanges ended) :
    ClonePreparation environment bundle source exchanges ended := by
  unfold prepareClone at runs
  cases present : bundle.database with
  | none =>
    -- Without a clone no source is looked for.
    have cause : bundle.clonelessError
        = .configuration "clone preparation needs a database template" := by
      rw [Bundle.clonelessError, present]
    simp only [present, pure_bind] at runs
    obtain ⟨rfl, rfl⟩ := runs_logged_pair.mp runs
    rw [← cause]
    exact .unasked (by simp [Bundle.clone?, present])
  | some database =>
    cases mode : database.spec.mode with
    | fresh instanceSpec =>
      have cause : bundle.clonelessError
          = .validation database.metadata.effectiveName "database template is not a clone" := by
        rw [Bundle.clonelessError, present]
      simp only [present, mode, pure_bind] at runs
      obtain ⟨rfl, rfl⟩ := runs_logged_pair.mp runs
      rw [← cause]
      exact .unasked (by simp [Bundle.clone?, present, mode])
    | clone template =>
      simp only [present, mode, pure_bind] at runs
      obtain ⟨lookups, ⟨result, placed⟩, _, rfl, pointing, runs⟩ := Program.runs_bind.mp runs
      obtain ⟨rfl, rfl⟩ := runs_logged_pair.mp runs
      -- What the choice of the source came to is what is logged and handed on.
      rcases runs_prepareCloneSource pointing with ⟨error, choice, same⟩ | ⟨chosen, choice, same⟩
      · obtain ⟨rfl, rfl⟩ := Prod.mk.inj same
        exact .unpointed present mode choice
      · obtain ⟨rfl, rfl⟩ := Prod.mk.inj same
        rw [failureLog, failure?, List.append_nil]
        exact .pointed present mode choice

/-- A clone that could be prepared is submitted, if at all, with the id that the control plane gave for
its source and with a snapshot that it lists for that source under the clone's own cluster; with a
blank id it is not submitted, and neither is anything else. -/
theorem provision_submits_chosen_clone {σ τ : Type} (plane : Program.Handler Call.interface σ)
    (state : σ) (cluster : Program.Handler Call.interface τ) (start : τ) (environment : Environment)
    (timings : Timings) (bundle : Bundle) (source : String) {chosen : Bundle}
    (ran : ((prepareClone environment bundle source).run plane state).1 = (.ok (), chosen)) :
    ∃ (database : Database) (template clone : CloneSpec) (found : ManagedDatabase)
        (catalog : SnapshotCatalog),
      bundle.database = some database ∧ database.spec.mode = .clone template
      ∧ (prepareClone environment bundle source).transcript plane state
          = [⟨.lookup (.databaseNamed source), .ok found⟩,
            ⟨.lookup (.snapshots found.timeMachineId), .ok catalog⟩]
      ∧ clone = { template with
          clusterId := environment.cloneClusterId.getD template.clusterId
          sourceDatabaseId := found.id
          snapshotId := clone.snapshotId }
      ∧ clone.snapshotId ≠ "" ∧ catalog.Lists clone.clusterId clone.snapshotId
      ∧ (∀ record reply, ⟨.create .database record, reply⟩
            ∈ (provision environment timings chosen).transcript cluster start →
          record.spec.mode = .clone clone)
      ∧ (Text.trim clone.sourceDatabaseId = "" ∨ Text.trim clone.clusterId = ""
            ∨ Text.trim clone.snapshotId = "" →
          (∃ error, ((provision environment timings chosen).run cluster start).1.1 = .error error)
          ∧ Exchanges.ofStore ((provision environment timings chosen).transcript cluster start)
            = []) := by
  -- Of the ways in which a preparation and the choice of a source can end, one succeeds for each.
  have runs := Program.runs_transcript plane (prepareClone environment bundle source) state
  rw [ran] at runs
  have preparation := runs_prepareClone runs
  have provisioned := runs_provision
    (Program.runs_transcript cluster (provision environment timings chosen) start)
  generalize (prepareClone environment bundle source).transcript plane state = exchanges
    at preparation
  cases preparation with
  | @pointed database template pointed lookups present mode choice =>
    cases choice with
    | @chosen found catalog snapshotId placed recorded selected =>
      obtain ⟨named, lists⟩ := SnapshotCatalog.select_eq_ok selected
      let clone := { environment.placedClone template with sourceDatabaseId := found.id, snapshotId }
      -- The clone is on the environment's cluster already, so preparation leaves it there.
      have there : environment.placedClone clone = clone := by
        have same := environment.placedClone_placedClone template
        exact congrArg (fun moved : CloneSpec =>
          { moved with sourceDatabaseId := found.id, snapshotId }) same
      refine ⟨database, template, clone, found, catalog, present, mode, rfl, rfl, named, lists,
        ?submits, ?refuses⟩
      case submits =>
        intro record reply listed
        rw [← there]
        exact provisioned.mode_of_submitted rfl rfl listed
      case refuses =>
        intro blank
        have fields : (environment.placedClone clone).blankFields ≠ [] := by
          rw [there]
          exact clone.blankFields_ne_nil_iff.mpr blank
        obtain ⟨error, failed⟩ := provisioned.fails_of_blank fields
        exact ⟨⟨error, failed⟩, provisioned.ofStore_of_failed failed⟩

/-- A bundle with a clone alone. -/
def cloneBundle (clone : CloneSpec) : Bundle where
  database := some { metadata := { name := some "orders-clone" }, spec := ⟨"cp", .clone clone⟩ }

/-- The clone of a bundle is submitted with the snapshot that is listed under its cluster. -/
theorem provision_submits_chosen_orders :
    ∃ (record : Database) (reply : Except Error Database) (catalog : SnapshotCatalog),
      ⟨.create .database record, reply⟩
        ∈ (provision {} {} (cloneBundle pointedClone)).transcript Rehearsal.answer {}
      ∧ record.spec.mode = .clone pointedClone ∧ catalog.Lists "cluster-b" "daily-1" := by
  have ran : ((prepareClone {} (cloneBundle unpointedClone) "orders").run Rehearsal.answer
      (rehearsedOrders "db-42")).1 = (.ok (), cloneBundle pointedClone) := rfl
  obtain ⟨_, _, clone, _, catalog, _, _, _, _, _, lists, submits, _⟩ :=
    provision_submits_chosen_clone Rehearsal.answer (rehearsedOrders "db-42") Rehearsal.answer {} {} {}
      (cloneBundle unpointedClone) "orders" ran
  -- The database is the only record, so its submission is the first call.
  have submitted : DatabaseMode.clone pointedClone = .clone clone := submits _ _ List.mem_cons_self
  obtain rfl := DatabaseMode.clone.inj submitted
  exact ⟨_, _, catalog, List.mem_cons_self, submits _ _ List.mem_cons_self, lists⟩

end Workflow

end DatabaseLifecycle

import DatabaseLifecycle.Proofs.ControlPlane.Snapshot
import DatabaseLifecycle.Proofs.Resource.Clone
import DatabaseLifecycle.Proofs.Workflow.Exchanges
import DatabaseLifecycle.Rehearsal
import DatabaseLifecycle.Workflow.Clone

/-!
The choice of a clone's source: every way in which it can end, with the lookups that were made until
then, and what a clone that could be pointed at its source still lacks.
-/

namespace DatabaseLifecycle

/-- How the choice of a source for a clone ends, and the lookups that it has made. -/
inductive SourceChoice (clone : CloneSpec) (source : String) :
    Exchanges → Except Error CloneSpec → Prop where
  | unplaced (blank : Text.isBlankText clone.clusterId = true) :
      SourceChoice clone source [] (.error (.validation clone.name
        "clone requires non-empty clusterId to select a snapshot"))
  | unfound {error : Error} (placed : Text.isBlankText clone.clusterId = false) :
      SourceChoice clone source [⟨.lookup (.databaseNamed source), .error error⟩] (.error error)
  | unrecorded {found : ManagedDatabase} (placed : Text.isBlankText clone.clusterId = false)
      (empty : found.timeMachineId = "") :
      SourceChoice clone source [⟨.lookup (.databaseNamed source), .ok found⟩]
        (.error (.notFound "time machine of database" source))
  | unlisted {found : ManagedDatabase} {error : Error}
      (placed : Text.isBlankText clone.clusterId = false) (recorded : found.timeMachineId ≠ "") :
      SourceChoice clone source [⟨.lookup (.databaseNamed source), .ok found⟩,
        ⟨.lookup (.snapshots found.timeMachineId), .error error⟩] (.error error)
  | unselected {found : ManagedDatabase} {catalog : SnapshotCatalog} {error : Error}
      (placed : Text.isBlankText clone.clusterId = false) (recorded : found.timeMachineId ≠ "")
      (selected : catalog.select clone.clusterId = .error error) :
      SourceChoice clone source [⟨.lookup (.databaseNamed source), .ok found⟩,
        ⟨.lookup (.snapshots found.timeMachineId), .ok catalog⟩] (.error error)
  | chosen {found : ManagedDatabase} {catalog : SnapshotCatalog} {snapshotId : String}
      (placed : Text.isBlankText clone.clusterId = false) (recorded : found.timeMachineId ≠ "")
      (selected : catalog.select clone.clusterId = .ok snapshotId) :
      SourceChoice clone source [⟨.lookup (.databaseNamed source), .ok found⟩,
        ⟨.lookup (.snapshots found.timeMachineId), .ok catalog⟩]
        (.ok { clone with sourceDatabaseId := found.id, snapshotId })

namespace Workflow

variable {clone pointed : CloneSpec} {source : String} {exchanges : Exchanges}

/-- The choice of a source ends in one of these ways. -/
theorem runs_chooseSource {ended : Except Error CloneSpec}
    (runs : (chooseSource clone source).run.Runs exchanges ended) :
    SourceChoice clone source exchanges ended := by
  unfold chooseSource at runs
  by_cases blank : Text.isBlankText clone.clusterId = true
  · -- Without a cluster nothing is looked up.
    rw [if_pos blank, ExceptT.run_throw] at runs
    obtain ⟨rfl, rfl⟩ := Program.runs_pure.mp runs
    exact .unplaced blank
  · have placed : Text.isBlankText clone.clusterId = false := by simpa using blank
    rw [if_neg blank, Program.runs_run_bind] at runs
    rcases runs with ⟨error, looked, rfl⟩ | ⟨_, found, _, rfl, looked, runs⟩
    · obtain rfl := runs_call.mp looked
      exact .unfound placed
    · obtain rfl := runs_call.mp looked
      by_cases empty : found.timeMachineId.isEmpty = true
      · rw [if_pos empty, ExceptT.run_throw] at runs
        obtain ⟨rfl, rfl⟩ := Program.runs_pure.mp runs
        exact .unrecorded placed (String.isEmpty_iff.mp empty)
      · have recorded : found.timeMachineId ≠ "" := mt String.isEmpty_iff.mpr empty
        -- The second lookup is for the snapshots of what the first one found.
        rw [if_neg empty, Program.runs_run_bind] at runs
        rcases runs with ⟨error, listed, rfl⟩ | ⟨_, catalog, _, rfl, listed, runs⟩
        · obtain rfl := runs_call.mp listed
          exact .unlisted placed recorded
        · obtain rfl := runs_call.mp listed
          rw [Program.runs_run_bind] at runs
          rcases runs with ⟨error, selecting, rfl⟩ | ⟨_, snapshotId, _, rfl, selecting, runs⟩
          · obtain ⟨rfl, selected⟩ := Program.runs_pure.mp selecting
            exact .unselected placed recorded selected.symm
          · obtain ⟨rfl, selected⟩ := Program.runs_pure.mp selecting
            obtain ⟨rfl, rfl⟩ := Program.runs_pure.mp runs
            exact .chosen placed recorded selected.symm

/-- Pointing a clone at its source makes the calls of the choice, and a failure leaves it as it was. -/
theorem runs_prepareCloneSource {ended : Except Error Unit × CloneSpec}
    (runs : (prepareCloneSource clone source).Runs exchanges ended) :
    (∃ error, SourceChoice clone source exchanges (.error error) ∧ ended = (.error error, clone))
      ∨ ∃ pointed, SourceChoice clone source exchanges (.ok pointed)
        ∧ ended = (.ok (), pointed) := by
  unfold prepareCloneSource at runs
  obtain ⟨_, result, _, rfl, choosing, runs⟩ := Program.runs_bind.mp runs
  have choice := runs_chooseSource choosing
  -- Nothing is asked after the choice, so its calls are all of them.
  cases result with
  | error error =>
    obtain ⟨rfl, rfl⟩ := Program.runs_pure.mp runs
    exact Or.inl ⟨error, by rwa [List.append_nil], rfl⟩
  | ok pointed =>
    obtain ⟨rfl, rfl⟩ := Program.runs_pure.mp runs
    exact Or.inr ⟨pointed, by rwa [List.append_nil], rfl⟩

/-- A clone that could be pointed at its source is accepted exactly when neither the id that the
control plane gave for the source nor that of the selected snapshot is blank; its cluster is not. -/
theorem pointed_clone_accepted_iff {σ : Type} (handle : Program.Handler Call.interface σ) (state : σ)
    (clone : CloneSpec) (source resource : String) {pointed : CloneSpec}
    (ran : ((prepareCloneSource clone source).run handle state).1 = (.ok (), pointed)) :
    ∃ (found : ManagedDatabase) (catalog : SnapshotCatalog) (snapshotId : String),
      (prepareCloneSource clone source).transcript handle state
          = [⟨.lookup (.databaseNamed source), .ok found⟩,
            ⟨.lookup (.snapshots found.timeMachineId), .ok catalog⟩]
        ∧ catalog.select clone.clusterId = .ok snapshotId
        ∧ pointed = { clone with sourceDatabaseId := found.id, snapshotId }
        ∧ (pointed.validate resource = .ok () ↔
          Text.trim found.id ≠ "" ∧ Text.trim snapshotId ≠ "") := by
  -- Of the ways in which the choice can end only one succeeds.
  have runs := Program.runs_transcript handle (prepareCloneSource clone source) state
  rw [ran] at runs
  rcases runs_prepareCloneSource runs with ⟨error, _, ended⟩ | ⟨other, choice, ended⟩
  · cases ended
  · obtain rfl : pointed = other := (Prod.mk.inj ended).2
    generalize (prepareCloneSource clone source).transcript handle state = exchanges at choice
    cases choice with
    | @chosen found catalog snapshotId placed recorded selected =>
      refine ⟨found, catalog, snapshotId, rfl, selected, rfl, ?_⟩
      -- The cluster was looked at before anything else, so it is not among the blank fields.
      have named : Text.trim clone.clusterId ≠ "" := by
        rw [Ne, ← Text.isBlankText_iff, placed]
        exact Bool.false_ne_true
      rw [CloneSpec.validate_eq]
      have accepted := CloneSpec.blankFields_eq_nil_iff
        { clone with sourceDatabaseId := found.id, snapshotId }
      simp [accepted, named]

/-- A control plane that knows one database, under this id, and one snapshot of it. -/
def rehearsedOrders (id : String) : Rehearsal where
  lookupCues := [
    ("get_database_by_name",
      [.give ({ id, name := "orders", timeMachineId := "tm-42" } : ManagedDatabase).write]),
    ("get_snapshots_for_time_machine",
      [.give (SnapshotCatalog.write ⟨.ofList [("cluster-b", [⟨[{ id := "daily-1" }]⟩])]⟩)])]

/-- A clone that names neither its source nor a snapshot. -/
def unpointedClone : CloneSpec where
  name := "orders-clone"
  clusterId := "cluster-b"
  credentialSecret := "orders-db"
  type := "postgres"

/-- That clone with a source and a snapshot. -/
def pointedClone : CloneSpec :=
  { unpointedClone with sourceDatabaseId := "db-42", snapshotId := "daily-1" }

/-- A clone of a source with an id is accepted. -/
theorem pointed_clone_accepted_orders : pointedClone.validate "orders-clone" = .ok () := by
  have ran : ((prepareCloneSource unpointedClone "orders").run Rehearsal.answer
      (rehearsedOrders "db-42")).1 = (.ok (), pointedClone) := by decide +kernel
  obtain ⟨found, catalog, snapshotId, _, _, pointed, accepted⟩ :=
    pointed_clone_accepted_iff Rehearsal.answer (rehearsedOrders "db-42") unpointedClone "orders"
      "orders-clone" ran
  have source : "db-42" = found.id := congrArg CloneSpec.sourceDatabaseId pointed
  have snapshot : "daily-1" = snapshotId := congrArg CloneSpec.snapshotId pointed
  rw [← source, ← snapshot] at accepted
  exact accepted.mpr ⟨by decide, by decide⟩

/-- A clone of a source that the control plane reports without an id is pointed at it, but it is not
accepted. -/
theorem pointed_clone_lacks_source :
    ∃ pointed : CloneSpec,
      ((prepareCloneSource unpointedClone "orders").run Rehearsal.answer (rehearsedOrders "")).1
        = (.ok (), pointed)
      ∧ pointed.validate "orders-clone" = .error (.validation "orders-clone"
        "clone requires non-empty sourceDatabaseId") :=
  ⟨{ unpointedClone with snapshotId := "daily-1" }, by decide +kernel, by decide +kernel⟩

end Workflow

end DatabaseLifecycle

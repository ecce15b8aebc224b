import DatabaseLifecycle.Proofs.Workflow.CloneSubmission

/-!
The preparation of a clone is all or nothing: what a failure leaves as it was, which lookups are made
until then, and that a preparation which succeeded can be repeated.
-/

namespace DatabaseLifecycle

/-- The lookups that are made for the source of a clone. -/
inductive SourceLookups (clone : CloneSpec) (source : String) : Exchanges → Prop where
  | unplaced (blank : Text.trim clone.clusterId = "") : SourceLookups clone source []
  | unrecorded {reply : Except Error ManagedDatabase} (placed : Text.trim clone.clusterId ≠ "")
      (lacking : ∀ found, reply = .ok found → found.timeMachineId = "") :
      SourceLookups clone source [⟨.lookup (.databaseNamed source), reply⟩]
  | recorded {found : ManagedDatabase} {reply : Except Error SnapshotCatalog}
      (placed : Text.trim clone.clusterId ≠ "") (recorded : found.timeMachineId ≠ "") :
      SourceLookups clone source [⟨.lookup (.databaseNamed source), .ok found⟩,
        ⟨.lookup (.snapshots found.timeMachineId), reply⟩]

/-- A clone after it was to be pointed at its source, with the lookups that were made for that. -/
structure Pointed (clone : CloneSpec) (source : String) (lookups : Exchanges)
    (ended : Except Error Unit × CloneSpec) : Prop where
  /-- No other lookups are made. -/
  asked : SourceLookups clone source lookups
  /-- A failure leaves the clone as it was. -/
  left : ∀ error, ended.1 = .error error → ended.2 = clone
  /-- A success sets the ids of the source and of the snapshot, and nothing else. -/
  pointed : ended.1 = .ok () → ∃ (found : ManagedDatabase) (catalog : SnapshotCatalog)
    (snapshotId : String),
      lookups = [⟨.lookup (.databaseNamed source), .ok found⟩,
        ⟨.lookup (.snapshots found.timeMachineId), .ok catalog⟩]
      ∧ catalog.select clone.clusterId = .ok snapshotId
      ∧ ended.2 = { clone with sourceDatabaseId := found.id, snapshotId }
  /-- It is a success whenever both lookups are and a snapshot can be selected. -/
  selected : ∀ (found : ManagedDatabase) (catalog : SnapshotCatalog) (snapshotId : String),
    lookups = [⟨.lookup (.databaseNamed source), .ok found⟩,
      ⟨.lookup (.snapshots found.timeMachineId), .ok catalog⟩] →
    catalog.select clone.clusterId = .ok snapshotId → ended.1 = .ok ()

/-- A bundle after its clone was to be prepared, with the exchanges that were made for that. -/
structure ClonePrepared (environment : Environment) (bundle : Bundle) (source : String)
    (exchanges : Exchanges) (ended : Except Error Unit × Bundle) : Prop where
  /-- A bundle without a database is refused unchanged, and nothing is looked up. -/
  lacking : bundle.database = none →
    ended = (.error (.configuration "clone preparation needs a database template"), bundle)
      ∧ exchanges = Workflow.failureLog "prepare_clone" ended.1
  /-- A bundle with a fresh instance is refused unchanged, and nothing is looked up. -/
  fresh : ∀ (database : Database) (instanceSpec : InstanceSpec),
    bundle.database = some database → database.spec.mode = .fresh instanceSpec →
    ended = (.error (.validation database.metadata.effectiveName
        "database template is not a clone"), bundle)
      ∧ exchanges = Workflow.failureLog "prepare_clone" ended.1
  /-- A clone is placed on the environment's cluster and pointed at its source from there. -/
  clone : ∀ (database : Database) (template : CloneSpec),
    bundle.database = some database → database.spec.mode = .clone template →
    ∃ (lookups : Exchanges) (pointed : CloneSpec),
      exchanges = lookups ++ Workflow.failureLog "prepare_clone" ended.1
      ∧ Pointed { template with clusterId := environment.cloneClusterId.getD template.clusterId }
          source lookups (ended.1, pointed)
      ∧ ended.2 = { bundle with
          database := some { database with spec := { database.spec with mode := .clone pointed } } }

namespace Workflow

variable {environment : Environment} {bundle : Bundle} {clone chosen : CloneSpec} {source : String}
  {exchanges : Exchanges}

/-- However the choice of a source ends, no other lookups were made for it. -/
theorem sourceLookups_of_choice {ended : Except Error CloneSpec}
    (choice : SourceChoice clone source exchanges ended) :
    SourceLookups clone source exchanges := by
  cases choice with
  | unplaced blank => exact .unplaced (Text.isBlankText_iff.mp blank)
  | unfound placed =>
    -- A failed lookup reports no time machine either.
    refine .unrecorded (Text.isBlankText_eq_false_iff.mp placed) ?_
    rintro found ⟨⟩
  | unrecorded placed empty =>
    refine .unrecorded (Text.isBlankText_eq_false_iff.mp placed) ?_
    rintro found ⟨⟩
    exact empty
  | unlisted placed recorded | unselected placed recorded _ | chosen placed recorded _ =>
    exact .recorded (Text.isBlankText_eq_false_iff.mp placed) recorded

/-- A choice whose lookups succeeded succeeds if a snapshot can be selected. -/
theorem choice_of_selected {ended : Except Error CloneSpec} {found : ManagedDatabase}
    {catalog : SnapshotCatalog} {snapshotId : String}
    (choice : SourceChoice clone source [⟨.lookup (.databaseNamed source), .ok found⟩,
      ⟨.lookup (.snapshots found.timeMachineId), .ok catalog⟩] ended)
    (selected : catalog.select clone.clusterId = .ok snapshotId) :
    ended = .ok { clone with sourceDatabaseId := found.id, snapshotId } := by
  -- With both lookups answered, only the selection is left to decide.
  cases choice with
  | unselected placed recorded failed =>
    rw [selected] at failed
    cases failed
  | chosen placed recorded chosen =>
    rw [selected] at chosen
    cases chosen
    rfl

/-- A clone that a choice succeeded for is pointed at its source. -/
theorem pointed_of_choice (choice : SourceChoice clone source exchanges (.ok chosen)) :
    Pointed clone source exchanges (.ok (), chosen) := by
  refine ⟨sourceLookups_of_choice choice, ?left, ?pointed, fun _ _ _ _ _ => rfl⟩
  case left => rintro error ⟨⟩
  case pointed =>
    rintro -
    cases choice with
    | @chosen found catalog snapshotId placed recorded selected =>
      exact ⟨found, catalog, snapshotId, rfl, selected, rfl⟩

/-- A clone that a choice failed for is left as it was. -/
theorem pointed_of_failure {error : Error}
    (choice : SourceChoice clone source exchanges (.error error)) :
    Pointed clone source exchanges (.error error, clone) := by
  refine ⟨sourceLookups_of_choice choice, fun _ _ => rfl, ?pointed, ?selected⟩
  case pointed => rintro ⟨⟩
  case selected =>
    rintro found catalog snapshotId rfl selected
    cases choice_of_selected choice selected

/-- A clone that was to be pointed at its source either is or is left as it was. -/
theorem pointed_of_runs {ended : Except Error Unit × CloneSpec}
    (runs : (prepareCloneSource clone source).Runs exchanges ended) :
    Pointed clone source exchanges ended := by
  rcases runs_prepareCloneSource runs with ⟨error, choice, rfl⟩ | ⟨chosen, choice, rfl⟩
  · exact pointed_of_failure choice
  · exact pointed_of_choice choice

/-- A bundle with a clone keeps everything but what became of that. -/
theorem clonePrepared_of_clone {database : Database} {template pointed : CloneSpec}
    {lookups : Exchanges} {result : Except Error Unit} (present : bundle.database = some database)
    (mode : database.spec.mode = .clone template)
    (became : Pointed (environment.placedClone template) source lookups (result, pointed)) :
    ClonePrepared environment bundle source (lookups ++ failureLog "prepare_clone" result)
      (result, { bundle with database := some (withClone database pointed) }) := by
  -- The bundle has a database and that is a clone, so the two refusals are ruled out.
  refine ⟨?lacking, ?fresh, ?clone⟩
  case lacking =>
    intro absent
    cases present.symm.trans absent
  case fresh =>
    intro other instanceSpec found fresh
    cases present.symm.trans found
    cases mode.symm.trans fresh
  case clone =>
    intro other spec found same
    cases present.symm.trans found
    cases mode.symm.trans same
    exact ⟨lookups, pointed, rfl, became, rfl⟩

/-- However the preparation of a bundle's clone ends, this is what it has done. -/
theorem clonePrepared_of_runs {ended : Except Error Unit × Bundle}
    (runs : (prepareClone environment bundle source).Runs exchanges ended) :
    ClonePrepared environment bundle source exchanges ended := by
  cases runs_prepareClone runs with
  | unasked cloneless =>
    -- The cause that is logged names what the bundle has in the place of a clone.
    refine ⟨?lacking, ?fresh, ?clone⟩
    case lacking =>
      intro absent
      rw [Bundle.clonelessError, absent]
      exact ⟨rfl, rfl⟩
    case fresh =>
      intro database instanceSpec present _
      rw [Bundle.clonelessError, present]
      exact ⟨rfl, rfl⟩
    case clone =>
      intro database template present mode
      simp [Bundle.clone?, present, mode] at cloneless
  | unpointed present mode choice =>
    exact clonePrepared_of_clone present mode (pointed_of_failure choice)
  | @pointed database template chosen _ present mode choice =>
    -- A success is not logged.
    have prepared := clonePrepared_of_clone present mode (pointed_of_choice choice)
    rwa [failureLog, failure?, List.append_nil] at prepared

/-- The source that was chosen for a clone is chosen again for what came of it. -/
theorem runs_chooseSource_again (choice : SourceChoice clone source exchanges (.ok chosen)) :
    (chooseSource chosen source).run.Runs exchanges (.ok chosen) := by
  cases choice with
  | @chosen found catalog snapshotId placed recorded selected =>
    -- The cluster is the same, so the same snapshot is selected there.
    unfold chooseSource
    rw [if_neg (by simp [placed]), Program.runs_run_bind]
    refine Or.inr ⟨[_], found, [_], rfl, runs_call.mpr rfl, ?_⟩
    rw [if_neg (mt String.isEmpty_iff.mp recorded), Program.runs_run_bind]
    refine Or.inr ⟨[_], catalog, [], rfl, runs_call.mpr rfl, ?_⟩
    rw [selected]
    exact .done _

/-- A clone that is pointed at its source already is pointed there again. -/
theorem runs_prepareCloneSource_again (choice : SourceChoice clone source exchanges (.ok chosen)) :
    (prepareCloneSource chosen source).Runs exchanges (.ok (), chosen) := by
  unfold prepareCloneSource
  exact Program.runs_bind.mpr ⟨exchanges, .ok chosen, [], (List.append_nil _).symm,
    runs_chooseSource_again choice, .done _⟩

/-- A preparation that succeeded leads to the same bundle again when the replies are the same. -/
theorem runs_prepareClone_again {prepared : Bundle}
    (runs : (prepareClone environment bundle source).Runs exchanges (.ok (), prepared)) :
    (prepareClone environment prepared source).Runs exchanges (.ok (), prepared) := by
  cases runs_prepareClone runs with
  | @pointed database template chosen _ present mode choice =>
    -- The clone is on the environment's cluster already, so it stays there.
    have there : environment.placedClone chosen = chosen := by
      cases choice with
      | @chosen found catalog snapshotId placed recorded selected =>
        exact congrArg (fun clone : CloneSpec =>
          { clone with sourceDatabaseId := found.id, snapshotId })
          (environment.placedClone_placedClone template)
    have again : (prepareCloneSource (environment.placedClone chosen) source).Runs exchanges
        (.ok (), chosen) := by
      rw [there]
      exact runs_prepareCloneSource_again choice
    unfold prepareClone
    simp only [withClone, pure_bind]
    exact Program.runs_bind.mpr
      ⟨exchanges, (.ok (), chosen), [], (List.append_nil _).symm, again, .done _⟩

/-- Pointing a clone at its source is all or nothing. The preparation of a bundle's clone moves it to
the environment's cluster besides and touches nothing else; once it has succeeded, it changes nothing
when it is repeated with the same replies. -/
theorem clone_preparation_is_all_or_nothing {σ τ : Type} (plane : Program.Handler Call.interface σ)
    (state : σ) (later : Program.Handler Call.interface τ) (start : τ) (environment : Environment)
    (bundle : Bundle) (clone : CloneSpec) (source : String) :
    Pointed clone source ((prepareCloneSource clone source).transcript plane state)
        ((prepareCloneSource clone source).run plane state).1
      ∧ ClonePrepared environment bundle source
        ((prepareClone environment bundle source).transcript plane state)
        ((prepareClone environment bundle source).run plane state).1
      ∧ ∀ prepared : Bundle,
        ((prepareClone environment bundle source).run plane state).1 = (.ok (), prepared) →
        later.Gives start ((prepareClone environment bundle source).transcript plane state) →
        ((prepareClone environment prepared source).run later start).1 = (.ok (), prepared)
          ∧ (prepareClone environment prepared source).transcript later start
            = (prepareClone environment bundle source).transcript plane state := by
  have runs := Program.runs_transcript plane (prepareClone environment bundle source) state
  -- A run that is repeated with the same replies is the run of a program with the same exchanges.
  refine ⟨?pointed, ?prepared, ?again⟩
  case pointed => exact pointed_of_runs (Program.runs_transcript plane _ state)
  case prepared => exact clonePrepared_of_runs runs
  case again =>
    intro prepared succeeded gives
    rw [succeeded] at runs
    exact (runs_prepareClone_again runs).of_gives gives

end Workflow

end DatabaseLifecycle

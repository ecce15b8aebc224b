import DatabaseLifecycle.Proofs.Workflow.Steps
import DatabaseLifecycle.Workflow.Preparation

/-! Preparation gives every record a namespace and changes nothing else about where it lies. -/

namespace DatabaseLifecycle

namespace Metadata

variable (metadata : Metadata) (fallback : String)

/-- Metadata keeps its name when it is given a namespace. -/
@[simp] theorem effectiveName_withNamespace :
    (metadata.withNamespace fallback).effectiveName = metadata.effectiveName := rfl

/-- A record's own namespace is chosen unless it is missing or empty. -/
theorem namespaceOr_eq :
    metadata.namespaceOr fallback = (metadata.namespaceName.filter (· ≠ "")).getD fallback := by
  unfold namespaceOr
  cases metadata.namespaceName with
  | none => rfl
  | some own =>
    by_cases empty : own = ""
    · simp [empty, Option.filter]
    · simp [empty, Option.filter]

/-- A fallback that has been filled in is found again. -/
@[simp] theorem namespaceOr_withNamespace :
    (metadata.withNamespace fallback).namespaceOr fallback = metadata.namespaceOr fallback := by
  obtain ⟨name, namespaceName, generateName, labels⟩ := metadata
  -- A missing namespace and an empty one are both filled in with the fallback.
  cases namespaceName with
  | none => simp [withNamespace, namespaceOr]
  | some own =>
    by_cases empty : own = ""
    · simp [withNamespace, namespaceOr, empty]
    · simp [withNamespace, namespaceOr, empty]

/-- A second namespace does not replace the first. -/
theorem withNamespace_withNamespace :
    (metadata.withNamespace fallback).withNamespace fallback = metadata.withNamespace fallback := by
  -- The second time the fallback meets what it was filled in as.
  have same := namespaceOr_withNamespace metadata fallback
  rw [withNamespace, same]
  rfl

/-- A record's own choice of namespace can stand in for the fallback. -/
theorem withNamespace_namespaceOr :
    metadata.withNamespace (metadata.namespaceOr fallback) = metadata.withNamespace fallback := by
  obtain ⟨name, namespaceName, generateName, labels⟩ := metadata
  -- Either the record names a namespace, which is kept, or the fallback is used directly.
  cases namespaceName with
  | none => rfl
  | some own =>
    by_cases empty : own = ""
    · simp [withNamespace, namespaceOr, empty]
    · simp [withNamespace, namespaceOr, empty]

/-- A fallback that is used is what it was chosen for. -/
@[simp] theorem namespaceOr_namespaceOr :
    metadata.namespaceOr (metadata.namespaceOr fallback) = metadata.namespaceOr fallback := by
  unfold namespaceOr
  cases metadata.namespaceName with
  | none => rfl
  | some own =>
    by_cases empty : own = ""
    · simp [empty]
    · simp [empty]

variable {fallback}

/-- With a fallback there is always a namespace. -/
theorem namespaceOr_ne_empty (named : fallback ≠ "") : metadata.namespaceOr fallback ≠ "" := by
  unfold namespaceOr
  cases metadata.namespaceName with
  | none => exact named
  | some own =>
    by_cases empty : own = ""
    · simp [empty, named]
    · simp [empty]

/-- A namespace that has been filled in needs no other fallback. -/
theorem namespaceOr_of_withNamespace (named : fallback ≠ "") (other : String) :
    (metadata.withNamespace fallback).namespaceOr other = metadata.namespaceOr fallback := by
  -- What was filled in is not empty, so it counts as the record's own namespace.
  have filled := namespaceOr_ne_empty metadata named
  simp only [withNamespace]
  rw [namespaceOr]
  simp [filled]

/-- Two fallbacks make a difference exactly for a record that names no namespace. -/
theorem namespaceOr_eq_iff {other : String} :
    metadata.namespaceOr fallback = metadata.namespaceOr other ↔
      metadata.namespaceName.getD "" ≠ "" ∨ fallback = other := by
  -- The fallback is looked at only where there is no namespace or an empty one.
  unfold namespaceOr
  cases metadata.namespaceName with
  | none => simp
  | some own =>
    by_cases empty : own = ""
    · simp [empty]
    · simp [empty]

end Metadata

/-- A program that succeeds after a required variable found that variable set. -/
theorem Environment.require_bind_ok {α : Type} {value : Option String} {name : String}
    {next : String → Except Error α} {result : α}
    (succeeded : (require value name >>= next) = .ok result) :
    ∃ text, next text = .ok result := by
  cases value with
  | none => cases succeeded
  | some text => exact ⟨text, succeeded⟩

namespace Bundle

/-- One bundle is another in which the records of some steps have a namespace. -/
def Places (target : String) (steps : List Step) (bundle placed : Bundle) : Prop :=
  ∀ step, placed.metadata? step =
    if step ∈ steps then (bundle.metadata? step).map (·.withNamespace target)
    else bundle.metadata? step

variable {environment : Environment} {target : String} {bundle next last prepared : Bundle}

/-- Placing further records keeps those that are placed already. -/
theorem Places.trans {earlier later : List Step} (first : Places target earlier bundle next)
    (second : Places target later next last) : Places target (earlier ++ later) bundle last := by
  -- A record that both place gets the same namespace from each.
  intro step
  rw [second step, first step]
  by_cases early : step ∈ earlier <;> by_cases late : step ∈ later
  · simp [early, late, Function.comp_def, Metadata.withNamespace_withNamespace]
  · simp [early, late]
  · simp [early, late]
  · simp [early, late]

/-- Where there is no record, there is nothing to place. -/
theorem places_of_absent {step : Step} (absent : bundle.record? step = none) :
    Places target [step] bundle bundle := by
  -- The step has no metadata to place, and all other steps keep theirs.
  intro other
  by_cases same : other = step
  · have missing := metadata?_eq_none.mpr absent
    simp [same, missing]
  · simp [same]

/-- The stage of the database's secret places that secret. -/
theorem fillDatabaseSecret_places (filled : fillDatabaseSecret environment target bundle = .ok next) :
    Places target [.databaseSecret] bundle next := by
  unfold fillDatabaseSecret at filled
  cases present : bundle.databaseSecret with
  | none =>
    rw [present] at filled
    cases filled
    exact places_of_absent present
  | some secret =>
    rw [present] at filled
    -- The stage succeeded, so its variable was set; the secret is the only record that it touches.
    obtain ⟨password, filled⟩ := Environment.require_bind_ok filled
    cases filled
    intro step
    cases step <;> simp [metadata?, record?, present, Kind.metadata, Secret.inject]

/-- The stage of the control plane's secret places that secret. -/
theorem fillServerSecret_places (filled : fillServerSecret environment target bundle = .ok next) :
    Places target [.serverSecret] bundle next := by
  unfold fillServerSecret at filled
  cases present : bundle.serverSecret with
  | none =>
    rw [present] at filled
    cases filled
    exact places_of_absent present
  | some secret =>
    rw [present] at filled
    -- This stage reads two variables, and both were set.
    obtain ⟨username, filled⟩ := Environment.require_bind_ok filled
    obtain ⟨password, filled⟩ := Environment.require_bind_ok filled
    cases filled
    intro step
    cases step <;> simp [metadata?, record?, present, Kind.metadata, Secret.inject]

/-- The stage of the control plane's registration places that registration. -/
theorem fillServer_places (filled : fillServer environment target bundle = .ok next) :
    Places target [.server] bundle next := by
  unfold fillServer at filled
  cases present : bundle.server with
  | none =>
    rw [present] at filled
    cases filled
    exact places_of_absent present
  | some server =>
    rw [present] at filled
    -- The endpoint comes from a variable that was set.
    obtain ⟨endpoint, filled⟩ := Environment.require_bind_ok filled
    cases filled
    intro step
    cases step <;> simp [metadata?, record?, present, Kind.metadata]

/-- The stage of the database places it. -/
theorem placeDatabase_places (environment : Environment) (target : String) (bundle : Bundle) :
    Places target [.database, .databaseReady, .databaseDeleted] bundle
      (placeDatabase environment target bundle) := by
  -- Three steps are about the database, and the stage places it for all of them.
  intro step
  cases step <;>
    simp [placeDatabase, metadata?, record?, Kind.metadata, Option.map_map, Function.comp_def]

/-- The check of a clone changes nothing. -/
theorem checkClone_ok (checked : checkClone bundle = .ok next) : next = bundle := by
  unfold checkClone at checked
  cases present : bundle.database with
  | none =>
    rw [present] at checked
    cases checked
    rfl
  | some database =>
    cases mode : database.spec.mode with
    | fresh spec =>
      simp only [present, mode] at checked
      cases checked
      rfl
    | clone clone =>
      -- An invalid clone would have ended preparation with its error.
      cases valid : clone.validate database.metadata.effectiveName with
      | error error => simp [present, mode, valid, bind, Except.bind] at checked
      | ok value =>
        simp only [present, mode, valid] at checked
        cases checked
        rfl

/-- The stage of the workload places it. -/
theorem placeWorkload_places (target : String) (bundle : Bundle) :
    Places target [.workload, .workloadRunning] bundle (placeWorkload target bundle) := by
  intro step
  cases step <;>
    simp [placeWorkload, metadata?, record?, Kind.metadata, Option.map_map, Function.comp_def]

/-- A stage that succeeds is followed by the others, and one that fails ends them all. -/
theorem inTurn_cons_ok {stage : Bundle → Except Error Bundle}
    {rest : List (Bundle → Except Error Bundle)} :
    inTurn (stage :: rest) bundle = (.ok (), last) ↔
      ∃ next, stage bundle = .ok next ∧ inTurn rest next = (.ok (), last) := by
  cases staged : stage bundle with
  | ok next => simp [inTurn, staged]
  | error error => simp [inTurn, staged]

/-- Preparation gives the bundle's namespace to the records that name none. -/
theorem prepare_metadata? (ready : bundle.prepare environment = (.ok (), prepared)) (step : Step) :
    prepared.metadata? step = (bundle.metadata? step).map (·.withNamespace bundle.namespaceName) := by
  unfold prepare at ready
  -- Every stage succeeded, and each hands its bundle to the next.
  obtain ⟨first, filled, ready⟩ := inTurn_cons_ok.mp ready
  obtain ⟨second, joined, ready⟩ := inTurn_cons_ok.mp ready
  obtain ⟨third, registered, ready⟩ := inTurn_cons_ok.mp ready
  obtain ⟨fourth, placed, ready⟩ := inTurn_cons_ok.mp ready
  obtain ⟨fifth, checked, ready⟩ := inTurn_cons_ok.mp ready
  obtain ⟨sixth, ended, ready⟩ := inTurn_cons_ok.mp ready
  cases placed
  cases checkClone_ok checked
  cases ended
  cases ready
  -- Together the stages place the records of all steps but that of the service, which is none.
  have placed := ((((fillDatabaseSecret_places filled).trans (fillServerSecret_places joined)).trans
    (fillServer_places registered)).trans (placeDatabase_places environment _ third)).trans
    (placeWorkload_places bundle.namespaceName _)
  rw [placed step]
  cases step <;> simp [metadata?, record?]

/-- Preparation keeps a record exactly where there was one. -/
theorem prepare_record?_eq_none (ready : bundle.prepare environment = (.ok (), prepared))
    (step : Step) : prepared.record? step = none ↔ bundle.record? step = none := by
  rw [← metadata?_eq_none, ← metadata?_eq_none, prepare_metadata? ready, Option.map_eq_none_iff]

/-- Preparation does not empty a bundle. -/
theorem prepare_isEmpty (ready : bundle.prepare environment = (.ok (), prepared)) :
    prepared.isEmpty = bundle.isEmpty := by
  rw [Bool.eq_iff_iff, isEmpty_iff, isEmpty_iff]
  simp only [prepare_record?_eq_none ready]

/-- The namespace of a bundle is that of its database, if that names one. -/
theorem namespaceName_eq (bundle : Bundle) :
    bundle.namespaceName =
      ((bundle.metadata? .database).map (·.namespaceOr defaultNamespace)).getD defaultNamespace := by
  simp only [namespaceName, metadata?, record?, Option.map_map]
  rfl

/-- The namespace of a bundle is never empty. -/
theorem namespaceName_ne_empty (bundle : Bundle) : bundle.namespaceName ≠ "" := by
  have named : defaultNamespace ≠ "" := by decide
  rw [namespaceName_eq]
  cases bundle.metadata? .database with
  | none => exact named
  | some metadata => exact metadata.namespaceOr_ne_empty named

/-- A database that names its namespace keeps that of its bundle. -/
theorem namespaceName_of_placed {other : Bundle} (kept : other.metadata? .database
      = (bundle.metadata? .database).map (·.withNamespace bundle.namespaceName)) :
    other.namespaceName = bundle.namespaceName := by
  rw [namespaceName_eq other, kept]
  have own := namespaceName_eq bundle
  cases database : bundle.metadata? .database with
  | none => rw [own, database]; rfl
  | some metadata =>
    -- The database names the bundle's namespace, so it is given the one that it has.
    rw [database] at own
    have same : bundle.namespaceName = metadata.namespaceOr defaultNamespace := own
    rw [same, Option.map_some, Metadata.withNamespace_namespaceOr, Option.map_some, Option.getD_some,
      Metadata.namespaceOr_withNamespace]

/-- Preparation keeps the namespace of a bundle. -/
theorem prepare_namespaceName (ready : bundle.prepare environment = (.ok (), prepared)) :
    prepared.namespaceName = bundle.namespaceName :=
  namespaceName_of_placed (prepare_metadata? ready .database)

/-- What every stage keeps is kept by stages in turn, also when one of them ends them. -/
theorem inTurn_preserves (holds : Bundle → Prop) {stages : List (Bundle → Except Error Bundle)}
    (kept : ∀ stage ∈ stages, ∀ before next, holds before → stage before = .ok next → holds next)
    {bundle : Bundle} (given : holds bundle) : holds (inTurn stages bundle).2 := by
  induction stages generalizing bundle with
  | nil => exact given
  | cons stage rest step =>
    rw [inTurn]
    cases staged : stage bundle with
    | error error => exact given
    | ok next =>
      have reached := kept stage List.mem_cons_self bundle next given staged
      exact step (fun later listed => kept later (List.mem_cons_of_mem stage listed)) reached

/-- Preparation keeps where records are taken to lie. -/
theorem prepare_place? (ready : bundle.prepare environment = (.ok (), prepared)) (step : Step) :
    prepared.place? step = bundle.place? step := by
  -- A namespace that has been filled in is the one that was taken for the record before.
  cases step <;>
    simp only [place?, prepare_metadata? ready, prepare_namespaceName ready, Option.map_map,
      Function.comp_def, Metadata.namespaceOr_withNamespace, Metadata.effectiveName_withNamespace]

end Bundle

end DatabaseLifecycle

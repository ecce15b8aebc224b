import DatabaseLifecycle.Proofs.Workflow.Exchanges
import DatabaseLifecycle.Resource.Bundle
import DatabaseLifecycle.Store.Records

/-! The steps of workflows: the record that each is about, and the place where that record lies. -/

namespace DatabaseLifecycle

/-- The kind of the record that a step is about. -/
@[reducible] def Step.kind : Step → Kind
  | databaseSecret | serverSecret => .secret
  | server => .server
  | database | databaseReady | databaseDeleted => .database
  | workload | workloadRunning => .pod
  | service => .service

/-- The steps that submit records, those that others depend on first. -/
def Step.submissions : List Step := [databaseSecret, serverSecret, server, database, workload]

/-- The steps that delete what exposes the database and the database itself. -/
def Step.databaseRemovals : List Step := [service, database]

/-- The steps that delete the other records once the database is waited for. -/
def Step.otherRemovals : List Step := [server, serverSecret, databaseSecret, workload]

namespace Bundle

/-- The record of a bundle that a step is about. A bundle holds no services. -/
def record? (bundle : Bundle) : (step : Step) → Option step.kind.Record
  | .databaseSecret => bundle.databaseSecret
  | .serverSecret => bundle.serverSecret
  | .server => bundle.server
  | .database | .databaseReady | .databaseDeleted => bundle.database
  | .workload | .workloadRunning => bundle.workload
  | .service => none

/-- What the record of a step says about itself. -/
def metadata? (bundle : Bundle) (step : Step) : Option Metadata :=
  (bundle.record? step).map step.kind.metadata

/-- Whether a step has something to do; a service goes with its database. -/
def concerns (bundle : Bundle) (step : Step) : Bool :=
  match step with
  | .service => bundle.database.isSome
  | step => (bundle.record? step).isSome

/-- Where the record of a step is taken to lie: in its own namespace or else in the bundle's, and a
service where its database does. -/
def place? (bundle : Bundle) (step : Step) : Option RecordKey :=
  match step with
  | .service => (bundle.metadata? .database).map fun metadata =>
    ⟨metadata.namespaceOr bundle.namespaceName, Database.serviceName metadata.effectiveName⟩
  | step => (bundle.metadata? step).map fun metadata =>
    ⟨metadata.namespaceOr bundle.namespaceName, metadata.effectiveName⟩

/-- A bundle is empty when it has no record for any submission. -/
theorem isEmpty_iff {bundle : Bundle} :
    bundle.isEmpty = true ↔ ∀ step ∈ Step.submissions, bundle.record? step = none := by
  -- The submissions name each record of a bundle once.
  simp [isEmpty, Step.submissions, record?, and_assoc]

/-- All records but services lie where their own metadata says. -/
theorem place?_of_ne_service (bundle : Bundle) {step : Step} (plain : step ≠ .service) :
    bundle.place? step = (bundle.metadata? step).map fun metadata =>
      ⟨metadata.namespaceOr bundle.namespaceName, metadata.effectiveName⟩ := by
  cases step with
  | service => contradiction
  | _ => rfl

/-- There is metadata wherever there is a record. -/
theorem metadata?_eq_none {bundle : Bundle} {step : Step} :
    bundle.metadata? step = none ↔ bundle.record? step = none := Option.map_eq_none_iff

/-- A record that is not a service has a place wherever there is one. -/
theorem place?_eq_none {bundle : Bundle} {step : Step} (plain : step ≠ .service) :
    bundle.place? step = none ↔ bundle.record? step = none := by
  rw [bundle.place?_of_ne_service plain, Option.map_eq_none_iff, metadata?_eq_none]

/-- A step has something to do exactly when there is a place to do it at. -/
theorem isSome_place? (bundle : Bundle) (step : Step) :
    (bundle.place? step).isSome = bundle.concerns step := by
  -- A service goes with its database; all other steps have records of their own.
  cases step <;> simp only [place?, concerns, metadata?, Option.isSome_map, record?]

end Bundle

/-- The outcome of a step for a record that may be absent. -/
def Outcome.ofOptional {ρ α : Type} (subject : Option ρ) (result : Except Error α) : Outcome :=
  match subject with
  | none => .skipped
  | some _ => .ofResult result

/-- It does not matter in what form something is there. -/
@[simp] theorem Outcome.ofOptional_map {ρ τ α : Type} (subject : Option ρ) (view : ρ → τ)
    (result : Except Error α) : ofOptional (subject.map view) result = ofOptional subject result := by
  cases subject <;> rfl

/-- A step for a record that is there has the outcome of its operation. -/
theorem Outcome.ofOptional_of_present {ρ α : Type} {subject : Option ρ} {result : Except Error α}
    (present : subject ≠ none) : ofOptional subject result = .ofResult result := by
  cases subject with
  | none => contradiction
  | some value => rfl

/-- A step is skipped exactly when there is nothing that it is about. -/
theorem Outcome.ofOptional_eq_skipped {ρ α : Type} {subject : Option ρ} {result : Except Error α} :
    ofOptional subject result = .skipped ↔ subject = none := by
  cases subject with
  | none => simp [ofOptional]
  | some value => simp [ofOptional, ofResult_ne_skipped]

/-- A report that has an outcome for each of some steps tells the outcome of each. -/
theorem Report.status?_of_steps {report : Report} {steps : List Step} {outcome : Step → Outcome}
    (noted : report.steps = steps.map fun step => (step, outcome step)) {step : Step}
    (listed : step ∈ steps) : report.status? step = some (outcome step) := by
  rw [status?, noted]
  -- A step listed twice has one outcome, so the entry that is found first will do.
  clear noted
  induction steps with
  | nil => cases listed
  | cons first rest found =>
    rw [List.map_cons, List.lookup_cons]
    by_cases same : step = first
    · simp [same]
    · -- The first entry is about another step, so the search goes on behind it.
      have later : step ∈ rest := (List.mem_cons.mp listed).resolve_left same
      have other : (step == first) = false := by simpa using same
      rw [other]
      exact found later

/-- A report is clean when none of its outcomes is a failure. -/
theorem Report.isClean_of_steps {report : Report} {steps : List Step} {outcome : Step → Outcome}
    (noted : report.steps = steps.map fun step => (step, outcome step))
    (fine : ∀ step ∈ steps, (outcome step).isFailed = false) : report.isClean = true := by
  rw [isClean, failures, noted, List.isEmpty_iff, List.filter_eq_nil_iff]
  -- An entry among the failures would be that of a listed step, whose outcome is no failure.
  intro entry listed
  obtain ⟨step, among, rfl⟩ := List.mem_map.mp listed
  rw [fine step among]
  exact Bool.false_ne_true

end DatabaseLifecycle

import DatabaseLifecycle.Proofs.Workflow.Prepared
import DatabaseLifecycle.Proofs.Workflow.Provision

/-! When provisioning fails: for what is wrong with the bundle, and before the first call. -/

namespace DatabaseLifecycle

/-- What can be wrong with a bundle that is to be provisioned, with its error, in the order in which
it is looked for. -/
def Bundle.provisionFaults (environment : Environment) (bundle : Bundle) : List (Bool × Error) :=
  (bundle.isEmpty, emptyError) :: bundle.preparationFaults environment

namespace Provisioned

variable {environment : Environment} {timings : Timings} {bundle : Bundle} {exchanges : Exchanges}
  {ended : Except Error Report × Bundle} {error : Error}

/-- A run of provisioning fails exactly with the error of the first fault of its bundle. -/
theorem fails_iff (provisioned : Provisioned environment timings bundle exchanges ended) :
    ended.1 = .error error ↔ firstFault? (bundle.provisionFaults environment) = some error := by
  rw [Bundle.provisionFaults, firstFault?_cons]
  cases provisioned with
  | refused empty =>
    -- An empty bundle is refused before the rest is looked at.
    rw [if_pos empty, Except.error.injEq, Option.some_inj]
  | unprepared failed =>
    have cause := Bundle.prepare_eq_error.mp (congrArg Prod.fst failed)
    -- There is nothing to prepare in an empty bundle, so this one is not empty.
    have present : bundle.isEmpty ≠ true := by
      intro empty
      rw [Bundle.preparationFaults_of_isEmpty empty] at cause
      cases cause
    rw [if_neg present, cause, Except.error.injEq, Option.some_inj]
  | submitted present ready fits =>
    have faultless := (Bundle.prepare_eq_filled ready).1
    rw [present, faultless]
    exact iff_of_false nofun nofun

/-- A run of provisioning that fails has not called the cluster. -/
theorem ofStore_of_failed (provisioned : Provisioned environment timings bundle exchanges ended)
    (failed : ended.1 = .error error) : exchanges.ofStore = [] := by
  cases provisioned with
  | refused empty => rfl
  | unprepared failed => rfl
  | submitted present ready fits => cases failed

end Provisioned

namespace Workflow

/-- Whatever the cluster replies, provisioning fails exactly for the first thing that is wrong with
the bundle, and then without a call to the cluster; with nothing wrong it reports. -/
theorem provision_fails_before_any_call {σ : Type} (handle : Program.Handler Call.interface σ)
    (state : σ) (environment : Environment) (timings : Timings) (bundle : Bundle) :
    (∀ error, ((provision environment timings bundle).run handle state).1.1 = .error error ↔
        firstFault? (bundle.provisionFaults environment) = some error)
      ∧ (∀ error, ((provision environment timings bundle).run handle state).1.1 = .error error →
          Exchanges.ofStore ((provision environment timings bundle).transcript handle state) = [])
      ∧ (firstFault? (bundle.provisionFaults environment) = none →
          ∃ report, ((provision environment timings bundle).run handle state).1.1 = .ok report) := by
  have provisioned := runs_provision
    (Program.runs_transcript handle (provision environment timings bundle) state)
  refine ⟨fun error => provisioned.fails_iff, fun error => provisioned.ofStore_of_failed, ?_⟩
  intro faultless
  -- There are only two ways to end, and a failure would be for a fault.
  cases ended : ((provision environment timings bundle).run handle state).1.1 with
  | ok report => exact ⟨report, rfl⟩
  | error error =>
    have fault := provisioned.fails_iff.mp ended
    rw [faultless] at fault
    cases fault

/-- Two secrets that nothing is known of. -/
def blankSecrets : Bundle where
  databaseSecret := some {}
  serverSecret := some {}

/-- Of the variables of two secrets the first that is unset is named, and neither is submitted. -/
theorem provision_fails_before_any_call_unset :
    ((provision {} {} blankSecrets).run Rehearsal.answer {}).1.1
        = .error (.configuration "DB_SECRET_PASSWORD is not set")
      ∧ Exchanges.ofStore ((provision {} {} blankSecrets).transcript Rehearsal.answer {}) = [] := by
  have refused := provision_fails_before_any_call Rehearsal.answer {} {} {} blankSecrets
  have failed := (refused.1 (.configuration "DB_SECRET_PASSWORD is not set")).mpr (by decide)
  exact ⟨failed, refused.2.1 _ failed⟩

end Workflow

end DatabaseLifecycle

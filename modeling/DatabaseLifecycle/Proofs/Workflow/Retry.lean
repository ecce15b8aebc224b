import DatabaseLifecycle.Proofs.Workflow.ReadBack
import DatabaseLifecycle.Proofs.Workflow.Refilled
import DatabaseLifecycle.Proofs.Workflow.Refusal

/-!
Rejected provisioning can be tried again. What a preparation had filled in when it failed is filled in
anew, so the next run cannot tell the bundle that was left from the one that was given.
-/

namespace DatabaseLifecycle

namespace Bundle

variable {environment : Environment} {bundle other : Bundle}

/-- Bundles that are filled in alike are empty alike. -/
theorem isEmpty_congr (same : other.filled environment = bundle.filled environment) :
    other.isEmpty = bundle.isEmpty := by
  rw [← isEmpty_filled environment other, same, isEmpty_filled]

/-- The same can be wrong with the provisioning of bundles that are filled in alike. -/
theorem provisionFaults_congr (same : other.filled environment = bundle.filled environment) :
    other.provisionFaults environment = bundle.provisionFaults environment := by
  rw [provisionFaults, provisionFaults, isEmpty_congr same, preparationFaults_congr same]

end Bundle

namespace Workflow

variable {environment earlier later : Environment} {timings : Timings} {bundle left : Bundle}
  {error : Error}

/-- A bundle that something is wrong with is rejected: that is logged, and no other call is made. -/
theorem provision_of_fault (timings : Timings)
    (found : firstFault? (bundle.provisionFaults environment) = some error) :
    ∃ left, provision environment timings bundle
      = (do return (.error (← logFailure "provision" error), left)) := by
  rw [Bundle.provisionFaults, firstFault?_cons] at found
  unfold provision
  by_cases empty : bundle.isEmpty = true
  · rw [if_pos empty] at found ⊢
    obtain rfl := Option.some_inj.mp found
    exact ⟨bundle, rfl⟩
  · rw [if_neg empty] at found ⊢
    have failed := Bundle.prepare_eq_error.mpr found
    cases prepared : bundle.prepare environment with
    | mk result reached =>
      rw [prepared] at failed
      obtain rfl : result = .error error := failed
      exact ⟨reached, rfl⟩

/-- A bundle that nothing is wrong with is filled in, submitted and waited for. -/
theorem provision_of_faultless (timings : Timings)
    (faultless : firstFault? (bundle.provisionFaults environment) = none) :
    provision environment timings bundle = (do
      let (report, left) ← provisionPrepared timings (bundle.filled environment)
      return (.ok report, left)) := by
  rw [Bundle.provisionFaults, firstFault?_cons] at faultless
  unfold provision
  by_cases empty : bundle.isEmpty = true
  · rw [if_pos empty] at faultless
    cases faultless
  · rw [if_neg empty] at faultless ⊢
    have ends := Bundle.prepare_endsUnlessFaulty environment bundle
    rw [Bundle.EndsUnlessFaulty, faultless] at ends
    rw [ends]

/-- Rejected provisioning leaves a bundle that is filled in as the given one. -/
theorem rejected_refilled {exchanges : Exchanges}
    (covered : Bundle.CoversCluster earlier later bundle)
    (runs : (provision earlier timings bundle).Runs exchanges (.error error, left)) :
    left.filled later = bundle.filled later := by
  cases runs_provision runs with
  | refused empty => rfl
  | unprepared failed =>
    have refilled := Bundle.prepare_refilled covered
    rw [failed] at refilled
    exact refilled

/-- Provisioning goes the same way for bundles that are filled in alike, and what it accepts it also
leaves alike. -/
theorem provision_congr {σ : Type} (handle : Program.Handler Call.interface σ) (state : σ)
    (timings : Timings) (same : left.filled later = bundle.filled later) :
    let again := (provision later timings left).run handle state
    let fresh := (provision later timings bundle).run handle state
    again.1.1 = fresh.1.1 ∧ again.2 = fresh.2
      ∧ (provision later timings left).transcript handle state
        = (provision later timings bundle).transcript handle state
      ∧ ∀ report, fresh.1.1 = .ok report → again.1.2 = fresh.1.2 := by
  have faults := congrArg firstFault? (Bundle.provisionFaults_congr same)
  cases found : firstFault? (bundle.provisionFaults later) with
  | some error =>
    rw [found] at faults
    -- Both are rejected for the same cause, which is all that is logged.
    obtain ⟨_, again⟩ := provision_of_fault timings faults
    obtain ⟨_, fresh⟩ := provision_of_fault timings found
    rw [again, fresh]
    refine ⟨rfl, rfl, rfl, fun report accepted => ?_⟩
    cases accepted
  | none =>
    rw [found] at faults
    -- Both are filled in first, and from there on the runs are one.
    have again := provision_of_faultless timings faults
    have fresh := provision_of_faultless timings found
    rw [again, fresh, same]
    exact ⟨rfl, rfl, rfl, fun _ _ => rfl⟩

/-- Provisioning that was rejected can be tried again on the bundle that it left: whatever the cluster
replies, the next run ends as it would for the bundle that was given, makes the same calls, and leaves
the same bundle once it is accepted. A cluster that the environment named must still be named. -/
theorem rejected_provision_retried {σ τ : Type} (handle : Program.Handler Call.interface σ)
    (start : σ) (later : Environment) (timings : Timings) (bundle : Bundle)
    (covered : ∀ database, bundle.database = some database →
      (earlier.clusterId database.spec.isClone).isSome →
        (later.clusterId database.spec.isClone).isSome)
    (rejected : ((provision earlier timings bundle).run handle start).1 = (.error error, left))
    (answer : Program.Handler Call.interface τ) (state : τ) (patience : Timings) :
    let again := (provision later patience left).run answer state
    let fresh := (provision later patience bundle).run answer state
    again.1.1 = fresh.1.1 ∧ again.2 = fresh.2
      ∧ (provision later patience left).transcript answer state
        = (provision later patience bundle).transcript answer state
      ∧ ∀ report, fresh.1.1 = .ok report → again.1.2 = fresh.1.2 := by
  have runs := Program.runs_transcript handle (provision earlier timings bundle) start
  rw [rejected] at runs
  exact provision_congr answer state patience (rejected_refilled covered runs)

/-- An environment with another user than the usual one, and without an endpoint. -/
def guestEnvironment : Environment where
  controlPlaneUsername := some "guest"
  controlPlanePassword := some "guess"
  instanceClusterId := some "west"

/-- The usual environment, with a cluster for instances. -/
def adminEnvironment : Environment :=
  { Environment.ofLookup planeSetting with instanceClusterId := some "east" }

/-- A control plane secret that a rejected attempt has filled in holds what the next attempt fills in. -/
theorem rejected_provision_retried_registered :
    ∃ left last report,
      ((provision guestEnvironment {} (registeredBundle "cp-system")).run Rehearsal.plain .empty).1
        = (.error (.unset Environment.endpointVariable), left)
      ∧ left.serverSecret.bind (·.text? Credentials.usernameKey) = some "guest"
      ∧ ((provision adminEnvironment {} left).run Rehearsal.plain .empty).1 = (.ok report, last)
      ∧ last.serverSecret.bind (·.text? Credentials.usernameKey) = some "admin" := by
  have covered : ∀ database, (registeredBundle "cp-system").database = some database →
      (guestEnvironment.clusterId database.spec.isClone).isSome →
        (adminEnvironment.clusterId database.spec.isClone).isSome := by
    rintro _ ⟨⟩ _
    rfl
  obtain ⟨ends, _, _, leaves⟩ := rejected_provision_retried Rehearsal.plain .empty adminEnvironment {}
    (registeredBundle "cp-system") covered rfl Rehearsal.plain .empty {}
  have last := leaves _ rfl
  exact ⟨_, _, _, rfl, rfl, Prod.ext ends last, rfl⟩

end Workflow

end DatabaseLifecycle

import DatabaseLifecycle.Proofs.Workflow.Provision

/-!
Readiness: how often a wait of provisioning fetches, how long it sleeps, how it ends and which record
it leaves, for every sequence of answers.
-/

namespace DatabaseLifecycle

namespace Exchanges

end Exchanges

namespace StatusWait

variable {kind : Kind} (wait : StatusWait kind)

/-- What a wait for a submitted record does when its fetches get the answers of a sequence. -/
structure Waited (submitted : kind.Record) (answers : Nat → Except Error kind.Record) (count : Nat)
    (exchanges : Exchanges) (outcome : Except Error Unit) (last : kind.Record) : Prop where
  /-- The wait stops at the first settling answer, or when the budget is spent. -/
  count_of_first : ∀ place, FirstSettling wait.settles answers place →
    count = min place wait.budget.limit
  /-- A wait that nothing settles spends the budget. -/
  count_of_none : (∀ place, wait.settles (answers place) = false) → count = wait.budget.limit
  /-- All fetches are for the submitted record, with one pause between each two and none at the
  end. -/
  exchanged : exchanges =
    Workflow.spaced (wait.asked submitted) wait.budget.interval ((List.range count).map answers)
      ++ Workflow.failureLog wait.operation outcome
  /-- The wait succeeds exactly when the settling answer is in time and has the awaited status. -/
  completed_iff : outcome = .ok () ↔ ∃ place ≤ wait.budget.limit,
    FirstSettling wait.settles answers place
      ∧ ∃ fetched, answers (place - 1) = .ok fetched ∧ wait.status fetched = wait.target
  /-- Otherwise it fails for the cause that the last fetch failed for. -/
  failed_of_error : ∀ error, answers (count - 1) = .error error → outcome = .error error
  /-- Or it fails because of the status that the last fetched record has. -/
  failed_of_status : ∀ fetched, answers (count - 1) = .ok fetched →
    wait.status fetched ≠ wait.target → outcome =
      .error (.notReady kind.name (kind.metadata submitted).effectiveName (wait.status fetched))
  /-- The last record that was fetched is left, or the submitted one. -/
  kept : last = lastFetched submitted ((List.range count).map answers)
  /-- After a success the record that is left has the awaited status. -/
  reached : outcome = .ok () → wait.status last = wait.target

end StatusWait

namespace Workflow

variable (environment : Environment) (timings : Timings) (report : Report) (bundle : Bundle)

end Workflow

end DatabaseLifecycle

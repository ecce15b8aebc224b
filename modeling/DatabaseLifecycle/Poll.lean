import DatabaseLifecycle.Error

/-!
Waiting by trying again: attempts a fixed time apart, up to a fixed number. The last attempt
decides, and no time passes after it.
-/

namespace DatabaseLifecycle

/-- How long a wait goes on. -/
structure Budget where
  /-- The milliseconds between two attempts. -/
  interval : Nat
  /-- The greatest number of attempts; one is made in any case. -/
  maxAttempts : Nat
  deriving DecidableEq, Repr, Inhabited

namespace Budget

/-- How many attempts may follow the first. -/
def retries (budget : Budget) : Nat := budget.maxAttempts - 1

end Budget

/-- The budgets of a workflow's waits. -/
structure Timings where
  /-- For a database to be ready. -/
  databaseReady : Budget := ⟨60000, 80⟩
  /-- For a workload to run. -/
  workloadRunning : Budget := ⟨1000, 300⟩
  /-- For a deleted database to be gone. -/
  databaseDeleted : Budget := ⟨60000, 10⟩
  deriving DecidableEq, Repr, Inhabited

namespace Poll

variable {m : Type → Type} [Monad m] {σ ε α : Type}

/-- Attempts, each with the state that the one before left, until one succeeds, one fails for a
cause that no further attempt can mend, or no more are left. -/
def attempts (pause : m Unit) (retryable : ε → Bool) (attempt : σ → m (σ × Except ε Unit)) :
    Nat → σ → m (σ × Except ε Unit)
  | 0, state => attempt state
  | retries + 1, state => do
    match ← attempt state with
    | (state, .ok ()) => return (state, .ok ())
    | (state, .error error) =>
      if retryable error then
        pause
        attempts pause retryable attempt retries state
      else return (state, .error error)

/-- A wait that ends early on a cause that no further attempt can mend. -/
def whileRetryable (sleep : Nat → m Unit) (budget : Budget) (retryable : ε → Bool)
    (attempt : σ → m (σ × Except ε Unit)) (state : σ) : m (σ × Except ε Unit) :=
  attempts (sleep budget.interval) retryable attempt budget.retries state

/-- A wait that tries again whatever the cause. -/
def whileFailing (sleep : Nat → m Unit) (budget : Budget)
    (attempt : σ → m (σ × Except ε Unit)) (state : σ) : m (σ × Except ε Unit) :=
  whileRetryable sleep budget (fun _ => true) attempt state

/-- An operation tried until it succeeds. -/
def retry (sleep : Nat → m Unit) (budget : Budget) (operation : m (Except ε α)) :
    m (Except ε α) :=
  go budget.retries
where
  /-- The operation tried once and up to so many times again. -/
  go : Nat → m (Except ε α)
  | 0 => operation
  | retries + 1 => do
    match ← operation with
    | .ok value => return .ok value
    | .error _ =>
      sleep budget.interval
      go retries

end Poll

end DatabaseLifecycle

import DatabaseLifecycle.Proofs.Workflow.Wait

/-!
Waits by themselves: how many attempts a wait makes, what each of them starts from, what passes in
between and what the wait ends with, whatever the attempts do. A wait that counts its attempts up in
thirty-two bits never counts past its limit, and an operation that is tried until it succeeds is a
wait whose state is its last outcome.
-/

namespace DatabaseLifecycle.Poll

/-- What a wait does. -/
inductive Action (κ : Type) where
  /-- It makes an attempt from a value. -/
  | attempt (handed : κ)
  /-- It lets time pass. -/
  | pause (milliseconds : Nat)

/-- The actions of a wait whose attempts start from values of one type and have results of another. -/
abbrev actions (κ ρ : Type) : Interface where
  Call := Action κ
  Reply
    | .attempt _ => ρ
    | .pause _ => Unit

variable {σ κ ρ ε α τ : Type}

/-- A pause of a wait. -/
def pause (milliseconds : Nat) : Program (actions κ ρ) Unit :=
  @Program.call (actions κ ρ) (.pause milliseconds)

/-- An attempt of a wait from a value. -/
def attempt (handed : κ) : Program (actions κ ρ) ρ := @Program.call (actions κ ρ) (.attempt handed)

/-- Whether an outcome ends a wait: a success, or a cause that no further attempt can mend. -/
def settles (retryable : ε → Bool) : Except ε Unit → Bool
  | .ok () => true
  | .error error => !retryable error

/-- The results that the attempts of a wait would have if it never ended: each starts from what is
handed over of the state that the one before left. -/
def results (hand : σ → κ) (next : ρ → σ) (interval : Nat)
    (handle : Program.Handler (actions κ ρ) τ) : σ → τ → Nat → ρ
  | state, around, 0 => (handle (.attempt (hand state)) around).1
  | state, around, place + 1 =>
    let (result, around) := handle (.attempt (hand state)) around
    results hand next interval handle (next result) (handle (.pause interval) around).2 place

/-- The state before each attempt: the first one, or what the attempt before left. -/
def states (next : ρ → σ) (state : σ) (given : Nat → ρ) : Nat → σ
  | 0 => state
  | place + 1 => next (given place)

/-- The exchanges of so many attempts, with a pause between each two. -/
def trail (interval : Nat) (handed : Nat → κ) (given : Nat → ρ) (count : Nat) :
    List (Exchange (actions κ ρ)) :=
  ((List.range count).map fun place => ⟨.attempt (handed place), given place⟩).intersperse
    ⟨.pause interval, ()⟩

/-- The pauses among exchanges. -/
def pauses (exchanges : List (Exchange (actions κ ρ))) : List Nat :=
  exchanges.filterMap fun exchange =>
    match exchange.call with
    | .attempt _ => none
    | .pause milliseconds => some milliseconds

/-- What a wait does whose attempts would start from these values and have these results if it never
ended. -/
structure Waited (settling : ρ → Bool) (budget : Budget) (handed : Nat → κ) (given : Nat → ρ)
    (exchanges : List (Exchange (actions κ ρ))) (ended : ρ) (count : Nat) : Prop where
  /-- The wait stops at the first settling result, or when the budget is spent. -/
  count_of_first : ∀ place, FirstSettling settling given place → count = min place budget.limit
  /-- A wait that nothing settles spends the budget. -/
  count_of_none : (∀ place, settling (given place) = false) → count = budget.limit
  /-- There is one pause between each two attempts, and none at the end. -/
  exchanged : exchanges = trail budget.interval handed given count
  /-- So the wait sleeps one interval less often than it tries. -/
  slept : pauses exchanges = List.replicate (count - 1) budget.interval
  /-- The last result is what the wait ends with. -/
  ended_last : ended = given (count - 1)

/-- Short of a limit, counting one more does not wrap around. -/
theorem toNat_add_one {made limit : UInt32} (below : made < limit) :
    (made + 1).toNat = made.toNat + 1 := by
  have less := UInt32.lt_iff_toNat_lt.mp below
  have small := limit.toNat_lt
  rw [UInt32.toNat_add, UInt32.toNat_one]
  omega

/-- The greater of two numbers of thirty-two bits is the greater one as a number. -/
theorem toNat_max (first second : UInt32) :
    (max first second).toNat = max first.toNat second.toNat := by
  show (if first ≤ second then second else first).toNat = _
  simp only [UInt32.le_iff_toNat_le]
  split <;> omega

/-- The same wait as a loop that counts its attempts up in thirty-two bits. It has no result if it
would count past the limit, and short of the limit the count does not wrap around. -/
def counted {m : Type → Type} [Monad m] (sleep : m Unit) (retryable : ε → Bool)
    (make : σ → m (σ × Except ε Unit)) (limit made : UInt32) (state : σ) :
    m (Option (σ × Except ε Unit)) :=
  if made < limit then do
    match ← make state with
    | (state, .ok ()) => return some (state, .ok ())
    | (state, .error error) =>
      if !retryable error then return some (state, .error error)
      else if limit ≤ made + 1 then return some (state, .error error)
      else
        sleep
        counted sleep retryable make limit (made + 1) state
  else return none
termination_by limit.toNat - made.toNat
decreasing_by
  -- Another attempt comes closer to the limit, because the count does not wrap around.
  have below : made < limit := by assumption
  have less := UInt32.lt_iff_toNat_lt.mp below
  have step := toNat_add_one below
  omega

/-- The outcome of an operation as a state to keep and as a verdict on it. -/
def keep (outcome : Except ε α) : Except ε α × Except ε Unit := (outcome, outcome.map fun _ => ())

section

variable {m : Type → Type} [Monad m] {sleep : m Unit} {retryable : ε → Bool}
  {make : σ → m (σ × Except ε Unit)}

/-- An attempt that settles the wait ends it; any other one is followed by a pause and by the
attempts that are left. -/
theorem attempts_succ (retries : Nat) (state : σ) :
    attempts sleep retryable make (retries + 1) state = make state >>= fun ended =>
      if settles retryable ended.2 then pure ended
      else sleep >>= fun _ => attempts sleep retryable make retries ended.1 := by
  -- What follows the attempt is decided by its outcome.
  rw [attempts]
  congr 1
  funext ended
  obtain ⟨next, outcome⟩ := ended
  cases outcome with
  | ok value => rfl
  | error error => cases retrying : retryable error <;> simp [settles, retrying]

/-- The counting loop makes one attempt more, and goes on if that settles nothing and is not the last
one. -/
theorem counted_of_lt {limit made : UInt32} (below : made < limit) (state : σ) :
    counted sleep retryable make limit made state = make state >>= fun ended =>
      if settles retryable ended.2 then pure (some ended)
      else if limit ≤ made + 1 then pure (some ended)
      else sleep >>= fun _ => counted sleep retryable make limit (made + 1) ended.1 := by
  rw [counted, if_pos below]
  congr 1
  funext ended
  obtain ⟨next, outcome⟩ := ended
  cases outcome with
  | ok value => rfl
  | error error => cases retrying : retryable error <;> simp [settles, retrying]

variable [LawfulMonad m]

/-- A loop that counts its attempts up is the wait with the attempts that are left, and it never
counts past its limit. -/
theorem counted_eq {limit made : UInt32} {retries : Nat}
    (left : made.toNat + retries + 1 = limit.toNat) (state : σ) :
    counted sleep retryable make limit made state
      = some <$> attempts sleep retryable make retries state := by
  -- Each attempt moves one from those that are left to those that are made.
  induction retries generalizing made state with
  | zero =>
    have below : made < limit := UInt32.lt_iff_toNat_lt.mpr (by omega)
    have last : limit ≤ made + 1 := by
      rw [UInt32.le_iff_toNat_le, toNat_add_one below]
      omega
    rw [counted_of_lt below, map_eq_pure_bind, attempts]
    congr 1
    funext ended
    rw [if_pos last, ite_self]
  | succ retries step =>
    have below : made < limit := UInt32.lt_iff_toNat_lt.mpr (by omega)
    have more : ¬ limit ≤ made + 1 := by
      rw [UInt32.le_iff_toNat_le, toNat_add_one below]
      omega
    rw [counted_of_lt below, attempts_succ, map_bind]
    congr 1
    funext ended
    rw [if_neg more]
    split
    · rw [map_pure]
    · rw [map_bind]
      congr 1
      funext _
      exact step (by rw [toNat_add_one below]; omega) _

/-- An operation that is tried until it succeeds is a wait whose state is its last outcome. -/
theorem retry_eq (pass : Nat → m Unit) (budget : Budget) (operation : m (Except ε α))
    (start : Except ε α) :
    retry pass budget operation
      = Prod.fst <$> whileFailing pass budget (fun _ => keep <$> operation) start := by
  unfold retry whileFailing whileRetryable
  -- Both spend the attempts that are left one by one.
  induction budget.retries generalizing start with
  | zero => simp [retry.go, attempts, keep]
  | succ retries step =>
    rw [retry.go, attempts_succ, map_bind, bind_map_left]
    congr 1
    funext outcome
    cases outcome with
    | ok value => simp [keep, settles, Except.map]
    | error error => simp [keep, settles, Except.map, step (.error error)]

end

/-- The first results of a sequence follow it. -/
theorem follows_map_range {given : Nat → α} (count : Nat) :
    Follows given ((List.range count).map given) := by
  intro place result found
  obtain ⟨index, listed, rfl⟩ := Option.map_eq_some_iff.mp (List.getElem?_map .. ▸ found)
  obtain ⟨_, same⟩ := List.getElem?_eq_some_iff.mp listed
  rw [← same, List.getElem_range]

/-- The trail of several attempts begins with the first of them and a pause. -/
theorem trail_succ (interval : Nat) (handed : Nat → κ) (given : Nat → ρ) (count : Nat) :
    trail interval handed given (count + 2)
      = ⟨.attempt (handed 0), given 0⟩ :: ⟨.pause interval, ()⟩
        :: trail interval (fun place => handed (place + 1)) (fun place => given (place + 1))
          (count + 1) := by
  simp only [trail, List.range_succ_eq_map, List.map_cons, List.map_map, List.intersperse,
    Function.comp_def]

/-- Of each two attempts in a row, the first is followed by a pause. -/
theorem pauses_trail (interval : Nat) (handed : Nat → κ) (given : Nat → ρ) (count : Nat) :
    pauses (trail interval handed given count) = List.replicate (count - 1) interval := by
  match count with
  | 0 | 1 => rfl
  | count + 2 =>
    have later := pauses_trail interval (fun place => handed (place + 1))
      (fun place => given (place + 1)) (count + 1)
    rw [trail_succ]
    show interval :: pauses _ = _
    rw [later]
    rfl

/-- The states after the first are those of a wait that starts from what the first attempt left. -/
theorem states_succ (next : ρ → σ) (state : σ) (given : Nat → ρ) (place : Nat) :
    states next state given (place + 1)
      = states next (next (given 0)) (fun place => given (place + 1)) place := by
  cases place <;> rfl

section

variable (hand : σ → κ) (next : ρ → σ) (verdict : ρ → Except ε Unit) (retryable : ε → Bool)

/-- A wait makes attempts until one settles it or none are left, and the last one decides. -/
theorem exists_trail (interval retries : Nat) (state : σ)
    (handle : Program.Handler (actions κ ρ) τ) (around : τ) :
    let program := attempts (pause interval) retryable
      (fun state => (fun result => (next result, verdict result)) <$> attempt (hand state))
      retries state
    let given := results hand next interval handle state around
    ∃ count, Taken (fun result => settles retryable (verdict result)) (retries + 1)
          ((List.range count).map given)
        ∧ (program.run handle around).1 = (next (given (count - 1)), verdict (given (count - 1)))
        ∧ program.transcript handle around
          = trail interval (fun place => hand (states next state given place)) given count := by
  -- The induction follows the attempts that are left; the first result is that of the sequence.
  induction retries generalizing state around with
  | zero => exact ⟨1, .spent, rfl, rfl⟩
  | succ retries step =>
    intro program given
    have unfolded : program = .ask (.attempt (hand state)) fun result =>
        if settles retryable (verdict result) then .done (next result, verdict result)
        else .ask (.pause interval) fun _ => attempts (pause interval) retryable
          (fun state => (fun result => (next result, verdict result)) <$> attempt (hand state))
          retries (next result) := attempts_succ retries state
    have first : (handle (.attempt (hand state)) around).1 = given 0 := rfl
    rw [unfolded, Program.run_ask, Program.transcript, first]
    by_cases settling : settles retryable (verdict (given 0)) = true
    · -- The wait is over, so there is no pause.
      rw [if_pos settling]
      exact ⟨1, .settled settling, rfl, rfl⟩
    · rw [if_neg settling, Program.run_ask, Program.transcript]
      -- After the pause the wait goes on from what the attempt left, with the later results.
      obtain ⟨count, taken, ended, followed⟩ := step (next (given 0))
        (handle (.pause interval) (handle (.attempt (hand state)) around).2).2
      cases count with
      | zero => exact absurd rfl taken.ne_nil
      | succ count =>
        refine ⟨count + 2, ?_, ended, ?_⟩
        · rw [List.range_succ_eq_map, List.map_cons, List.map_map]
          exact .again (by simpa using settling) taken
        · rw [followed, trail_succ]
          simp only [states_succ]
          rfl

/-- A wait with a budget does what its attempts demand. -/
theorem exists_waited (budget : Budget) (state : σ)
    (handle : Program.Handler (actions κ ρ) τ) (around : τ) :
    let program := whileRetryable pause budget retryable
      (fun state => (fun result => (next result, verdict result)) <$> attempt (hand state)) state
    let given := results hand next budget.interval handle state around
    ∃ count last, Waited (fun result => settles retryable (verdict result)) budget
          (fun place => hand (states next state given place)) given
          (program.transcript handle around) last count
        ∧ (program.run handle around).1 = (next last, verdict last) := by
  intro program given
  obtain ⟨count, taken, ended, followed⟩ := exists_trail hand next verdict retryable
    budget.interval budget.retries state handle around
  rw [Budget.retries_add_one] at taken
  have follows : Follows given _ := follows_map_range count
  refine ⟨count, given (count - 1), ⟨?_, ?_, followed, ?_, rfl⟩, ended⟩
  · intro place first
    simpa using taken.length_of_first follows first
  · intro none
    simpa using taken.length_of_none follows none
  · show pauses (program.transcript handle around) = _
    rw [show program.transcript handle around = _ from followed, pauses_trail]

end

/-- What an operation gives that is tried again and again does not depend on a state. -/
theorem results_replies (next : ρ → σ) (interval : Nat)
    (handle : Program.Handler (actions Unit ρ) τ) (state : σ) (around : τ) :
    results (fun _ => ()) next interval handle state around
      = handle.replies (.attempt ()) (.pause interval) around := by
  funext place
  induction place generalizing state around with
  | zero => rfl
  | succ place same => exact same _ _

/-- A value that is changed in the end changes no exchange. -/
theorem transcript_map {calls : Interface} {ω : Type} (handle : Program.Handler calls τ)
    (change : α → ω) (program : Program calls α) (around : τ) :
    (change <$> program).transcript handle around = program.transcript handle around := by
  induction program generalizing around with
  | done value => rfl
  | ask asked rest same => exact congrArg (_ :: ·) (same _ _)

/-- A value that is changed in the end is the same until then. -/
theorem run_map {calls : Interface} {ω : Type} (handle : Program.Handler calls τ)
    (change : α → ω) (program : Program calls α) (around : τ) :
    ((change <$> program).run handle around).1 = change (program.run handle around).1 := by
  rw [map_eq_pure_bind, Program.run_bind]
  rfl

/-- An outcome that is kept settles a wait exactly when it is a success. -/
theorem settles_keep (outcome : Except ε α) :
    settles (fun _ => true) (keep outcome).2 = outcome.isOk := by
  cases outcome <;> rfl

/-- For every budget, a wait makes attempts from the state that the one before left until one settles
it or the budget is spent, sleeps between them only, and ends with the state and the outcome of the
last one; counting its attempts in thirty-two bits it never counts past the limit. To retry an
operation is to wait with its last outcome as the state. -/
theorem wait_ends_with_last_attempt (interval : Nat) (maxAttempts : UInt32) :
    let budget : Budget := ⟨interval, maxAttempts.toNat⟩
    (∀ {σ ε τ : Type} (retryable : ε → Bool) (state : σ)
        (handle : Program.Handler (actions σ (σ × Except ε Unit)) τ) (around : τ),
        let program := whileRetryable pause budget retryable attempt state
        let given := results id Prod.fst interval handle state around
        ∃ count, Waited (fun result => settles retryable result.2) budget
          (states Prod.fst state given) given (program.transcript handle around)
          (program.run handle around).1 count)
      ∧ (∀ {σ ε : Type} {calls : Interface} (sleep : Nat → Program calls Unit)
          (retryable : ε → Bool) (make : σ → Program calls (σ × Except ε Unit)) (state : σ),
          counted (sleep interval) retryable make (max 1 maxAttempts) 0 state
              = some <$> whileRetryable sleep budget retryable make state
            ∧ whileFailing sleep budget make state
              = whileRetryable sleep budget (fun _ => true) make state)
      ∧ (∀ {ε α τ : Type} (handle : Program.Handler (actions Unit (Except ε α)) τ) (around : τ),
          let program := retry pause budget (attempt ())
          let given := handle.replies (.attempt ()) (.pause interval) around
          ∃ count, Waited Except.isOk budget (fun _ => ()) given
            (program.transcript handle around) (program.run handle around).1 count)
      ∧ ∀ {ε α : Type} {calls : Interface} (sleep : Nat → Program calls Unit)
          (operation : Program calls (Except ε α)) (start : Except ε α),
          retry sleep budget operation
            = Prod.fst <$> whileFailing sleep budget (fun _ => keep <$> operation) start := by
  intro budget
  refine ⟨?polls, ?counts, ?retries, fun sleep operation => retry_eq sleep budget operation⟩
  case polls =>
    intro σ ε τ retryable state handle around program given
    obtain ⟨count, last, waited, ended⟩ := exists_waited id Prod.fst Prod.snd retryable budget state
      handle around
    -- A result is itself the state that is left together with the outcome.
    have same : (fun state => (fun result => (result.1, result.2)) <$> attempt (id state))
        = (attempt : σ → Program (actions σ (σ × Except ε Unit)) _) :=
      funext fun state => id_map (attempt state)
    rw [same] at waited ended
    rw [ended]
    exact ⟨count, waited⟩
  case counts =>
    intro σ ε calls sleep retryable make state
    refine ⟨counted_eq ?_ state, rfl⟩
    rw [toNat_max, UInt32.toNat_one, UInt32.toNat_zero, Nat.zero_add, Budget.retries_add_one]
    rfl
  case retries =>
    intro ε α τ handle around program given
    let kept := whileFailing pause budget (fun _ => keep <$> attempt ()) (given 0)
    have same : program = Prod.fst <$> kept := retry_eq pause budget (attempt ()) (given 0)
    -- The wait that keeps outcomes has the results of the operation, whatever its first state is.
    have waits := exists_waited (fun _ : Except ε α => ()) id (fun outcome => (keep outcome).2)
      (fun _ => true) budget (given 0) handle around
    simp only [settles_keep, results_replies] at waits
    obtain ⟨count, last, waited, ended⟩ := waits
    refine ⟨count, ?_⟩
    rw [same, transcript_map, run_map, show (kept.run handle around).1 = keep last from ended]
    exact waited

end DatabaseLifecycle.Poll

import DatabaseLifecycle.Proofs.Transcript

/-!
Programs side by side: they share a state and make their calls to it in any order, and in between the
state may be changed from outside. What one of them does is a run of its own.
-/

namespace DatabaseLifecycle

/-- What happens next where programs share a state. -/
inductive Turn (ι υ : Type) where
  /-- One of the programs makes its next call. -/
  | run (index : ι)
  /-- The state is changed from outside. -/
  | change (given : υ)

/-- Programs that share a state. -/
structure Pool (calls : Interface) (ι σ α : Type) where
  /-- The state. -/
  state : σ
  /-- What each program has still to do. -/
  programs : ι → Program calls α
  /-- The exchanges of all programs so far, in order. -/
  log : List (ι × Exchange calls)

namespace Pool

variable {calls : Interface} {ι σ υ α : Type} [DecidableEq ι]

/-- Programs before their first call. -/
def start (state : σ) (programs : ι → Program calls α) : Pool calls ι σ α := ⟨state, programs, []⟩

/-- The pool after a call of one program has been answered. -/
def answered (handle : Program.Handler calls σ) (pool : Pool calls ι σ α) (index : ι)
    (asked : calls.Call) (next : calls.Reply asked → Program calls α) : Pool calls ι σ α where
  state := (handle asked pool.state).2
  programs other := if other = index then next (handle asked pool.state).1 else pool.programs other
  log := pool.log ++ [(index, ⟨asked, (handle asked pool.state).1⟩)]

/-- The pool after the next turn; the turn of a program that has ended passes. -/
def turn (handle : Program.Handler calls σ) (change : υ → σ → σ) (pool : Pool calls ι σ α) :
    Turn ι υ → Pool calls ι σ α
  | .run index =>
    match pool.programs index with
    | .done _ => pool
    | .ask asked next => pool.answered handle index asked next
  | .change given => { pool with state := change given pool.state }

/-- The pool after the turns of a schedule. -/
def play (handle : Program.Handler calls σ) (change : υ → σ → σ) (pool : Pool calls ι σ α)
    (schedule : List (Turn ι υ)) : Pool calls ι σ α :=
  schedule.foldl (turn handle change) pool

/-- The exchanges of one program. -/
def exchanges (pool : Pool calls ι σ α) (index : ι) : List (Exchange calls) :=
  pool.log.filterMap fun entry => if entry.1 = index then some entry.2 else none

variable {handle : Program.Handler calls σ} {change : υ → σ → σ} {pool : Pool calls ι σ α}
  {index : ι}

/-- An exchange of a program is logged as one of that program. -/
theorem mem_exchanges {exchange : Exchange calls} :
    exchange ∈ pool.exchanges index ↔ (index, exchange) ∈ pool.log := by
  simp [exchanges, List.mem_filterMap]

/-- Before their first call the programs have exchanged nothing. -/
@[simp] theorem exchanges_start (state : σ) (programs : ι → Program calls α) (index : ι) :
    (start state programs).exchanges index = [] := rfl

/-- A call that is answered is one more exchange of its program. -/
@[simp] theorem exchanges_answered {asked : calls.Call}
    {next : calls.Reply asked → Program calls α} :
    (pool.answered handle index asked next).exchanges index
      = pool.exchanges index ++ [⟨asked, (handle asked pool.state).1⟩] := by
  simp [exchanges, answered]

/-- The other programs exchange nothing meanwhile. -/
theorem exchanges_answered_of_ne {other : ι} (different : other ≠ index) {asked : calls.Call}
    {next : calls.Reply asked → Program calls α} :
    (pool.answered handle index asked next).exchanges other = pool.exchanges other := by
  simp [exchanges, answered, Ne.symm different]

/-- The program that made a call goes on with the reply. -/
@[simp] theorem programs_answered {asked : calls.Call}
    {next : calls.Reply asked → Program calls α} :
    (pool.answered handle index asked next).programs index = next (handle asked pool.state).1 :=
  if_pos rfl

/-- The other programs have still to do what they had. -/
theorem programs_answered_of_ne {other : ι} (different : other ≠ index) {asked : calls.Call}
    {next : calls.Reply asked → Program calls α} :
    (pool.answered handle index asked next).programs other = pool.programs other :=
  if_neg different

/-- The turn of a program that has ended passes. -/
theorem turn_of_done {value : α} (ended : pool.programs index = .done value) :
    pool.turn handle change (.run index) = pool := by
  simp only [turn, ended]

/-- A program that has not ended makes its call. -/
theorem turn_of_ask {asked : calls.Call} {next : calls.Reply asked → Program calls α}
    (asks : pool.programs index = .ask asked next) :
    pool.turn handle change (.run index) = pool.answered handle index asked next := by
  simp only [turn, asks]

/-- Without turns nothing happens. -/
@[simp] theorem play_nil : pool.play handle change [] = pool := rfl

/-- The first turn is followed by the others. -/
@[simp] theorem play_cons (first : Turn ι υ) (rest : List (Turn ι υ)) :
    pool.play handle change (first :: rest)
      = (pool.turn handle change first).play handle change rest := rfl

/-- Two schedules in a row are played in a row. -/
@[simp] theorem play_append (earlier later : List (Turn ι υ)) :
    pool.play handle change (earlier ++ later)
      = (pool.play handle change earlier).play handle change later := List.foldl_append

/-- A property that neither calls nor changes from outside disturb holds after every schedule. -/
theorem play_preserves (holds : Pool calls ι σ α → Prop)
    (answering : ∀ pool index asked next, pool.programs index = .ask asked next → holds pool →
      holds (pool.answered handle index asked next))
    (changing : ∀ (pool : Pool calls ι σ α) given, holds pool →
      holds { pool with state := change given pool.state })
    (schedule : List (Turn ι υ)) (initially : holds pool) :
    holds (pool.play handle change schedule) := by
  -- Each turn is a call that is answered, a change from outside, or one that passes.
  induction schedule generalizing pool with
  | nil => exact initially
  | cons first rest preserved =>
    rw [play_cons]
    apply preserved
    cases first with
    | change given => exact changing pool given initially
    | run index =>
      cases asks : pool.programs index with
      | done value =>
        rw [turn_of_done asks]
        exact initially
      | ask asked next =>
        rw [turn_of_ask asks]
        exact answering pool index asked next asks initially

/-- What a program has exchanged so far, followed by a run of what it has still to do, is a run of the
whole program. -/
theorem runs_append_of_play (handle : Program.Handler calls σ) (change : υ → σ → σ) (state : σ)
    (programs : ι → Program calls α) (schedule : List (Turn ι υ)) (index : ι) {later : List (Exchange calls)} {ended : α}
    (runs : (((start state programs).play handle change schedule).programs index).Runs later ended) :
    (programs index).Runs
      (((start state programs).play handle change schedule).exchanges index ++ later) ended := by
  -- Answering a call moves it, with its reply, from what is left to what is done.
  refine play_preserves (fun pool => ∀ later ended, (pool.programs index).Runs later ended →
    (programs index).Runs (pool.exchanges index ++ later) ended) ?_ ?_ schedule ?_ later ended runs
  · intro pool other asked next asks resumes later ended runs
    by_cases same : index = other
    · subst same
      rw [programs_answered] at runs
      rw [exchanges_answered, List.append_assoc]
      apply resumes
      rw [asks]
      exact .ask runs
    · rw [programs_answered_of_ne same] at runs
      rw [exchanges_answered_of_ne same]
      exact resumes later ended runs
  · intro pool given resumes
    exact resumes
  · intro later ended runs
    exact runs

/-- Programs make only the calls that they were to make, whatever the schedule. -/
theorem makesOnly_play (handle : Program.Handler calls σ) (change : υ → σ → σ)
    {allowed : ι → calls.Call → Prop} (schedule : List (Turn ι υ))
    (makes : ∀ index, (pool.programs index).MakesOnly (allowed index)) (index : ι) :
    ((pool.play handle change schedule).programs index).MakesOnly (allowed index) := by
  refine play_preserves (fun pool => ∀ index, (pool.programs index).MakesOnly (allowed index)) ?_ ?_
    schedule makes index
  · intro pool other asked next asks makes index
    by_cases same : index = other
    · -- The program goes on as it was allowed to for every reply.
      subst same
      have only := makes index
      rw [asks] at only
      rw [programs_answered]
      exact only.2 _
    · rw [programs_answered_of_ne same]
      exact makes index
  · intro pool given makes
    exact makes

/-- An exchange that a schedule adds was made in the turn of its program, and answered from the state
of that moment. -/
theorem mem_log_play {schedule : List (Turn ι υ)} {entry : ι × Exchange calls}
    (listed : entry ∈ (pool.play handle change schedule).log) :
    entry ∈ pool.log ∨ ∃ earlier later next, schedule = earlier ++ .run entry.1 :: later
      ∧ (pool.play handle change earlier).programs entry.1 = .ask entry.2.call next
      ∧ (handle entry.2.call (pool.play handle change earlier).state).1 = entry.2.reply := by
  induction schedule generalizing pool with
  | nil => exact Or.inl listed
  | cons first rest found =>
    rw [play_cons] at listed
    rcases found listed with before | ⟨earlier, later, next, rfl, asks, replied⟩
    · -- The exchange is that of the first turn, or it was made before.
      cases first with
      | change given => exact Or.inl before
      | run index =>
        cases asks : pool.programs index with
        | done value =>
          rw [turn_of_done asks] at before
          exact Or.inl before
        | ask asked next =>
          rw [turn_of_ask asks] at before
          rcases List.mem_append.mp before with old | new
          · exact Or.inl old
          · obtain rfl := List.mem_singleton.mp new
            exact Or.inr ⟨[], rest, next, rfl, asks, rfl⟩
    · exact Or.inr ⟨first :: earlier, later, next, rfl, asks, replied⟩

/-- A program that gets enough turns comes to its end. -/
theorem exists_done (handle : Program.Handler calls σ) (change : υ → σ → σ)
    (pool : Pool calls ι σ α) (index : ι) :
    ∃ count value,
      (pool.play handle change (List.replicate count (.run index))).programs index = .done value := by
  -- Each turn takes one call off what the program has still to do.
  generalize remaining : pool.programs index = program
  induction program generalizing pool with
  | done value => exact ⟨0, value, remaining⟩
  | ask asked next ends =>
    obtain ⟨count, value, ended⟩ :=
      ends _ (pool.answered handle index asked next) programs_answered
    refine ⟨count + 1, value, ?_⟩
    rw [List.replicate_succ, play_cons, turn_of_ask remaining]
    exact ended

end Pool

end DatabaseLifecycle

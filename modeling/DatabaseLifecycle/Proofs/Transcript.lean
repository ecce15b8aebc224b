import DatabaseLifecycle.Program

/-!
Transcripts keep every call of a run with its reply, and they alone determine how a run ends. Which calls
a program can make at all is read off its runs.
-/

namespace DatabaseLifecycle

/-- A call together with the reply that it got. -/
structure Exchange (calls : Interface) where
  /-- The call. -/
  call : calls.Call
  /-- The reply to it. -/
  reply : calls.Reply call

namespace Program

variable {calls : Interface} {α β σ : Type}

/-- The program ends with this value when its calls get the replies of these exchanges. -/
inductive Runs : Program calls α → List (Exchange calls) → α → Prop where
  | done (value : α) : Runs (done value) [] value
  | ask {asked : calls.Call} {next : calls.Reply asked → Program calls α}
      {reply : calls.Reply asked} {exchanges : List (Exchange calls)} {value : α}
      (rest : Runs (next reply) exchanges value) :
      Runs (ask asked next) (⟨asked, reply⟩ :: exchanges) value

/-- The exchanges of a run whose calls are answered by a handler. -/
def transcript (handle : Handler calls σ) : Program calls α → σ → List (Exchange calls)
  | done _, _ => []
  | ask asked next, state =>
    ⟨asked, (handle asked state).1⟩
      :: (next (handle asked state).1).transcript handle (handle asked state).2

/-- What a handler replies to a call that is made again and again, with another call in between. -/
def Handler.replies (handle : Handler calls σ) (asked between : calls.Call) :
    σ → Nat → calls.Reply asked
  | state, 0 => (handle asked state).1
  | state, count + 1 =>
    replies handle asked between (handle between (handle asked state).2).2 count

/-- From a state on, a handler gives the replies of these exchanges. -/
def Handler.Gives (handle : Handler calls σ) : σ → List (Exchange calls) → Prop
  | _, [] => True
  | state, exchange :: rest =>
    (handle exchange.call state).1 = exchange.reply
      ∧ Gives handle (handle exchange.call state).2 rest

/-- A program that is done makes no call. -/
theorem runs_pure {value ended : α} {exchanges : List (Exchange calls)} :
    (pure value : Program calls α).Runs exchanges ended ↔ exchanges = [] ∧ ended = value := by
  constructor
  · -- Only the rule for ended programs applies, and it has no exchanges.
    rintro (_ | _)
    exact ⟨rfl, rfl⟩
  · rintro ⟨rfl, rfl⟩
    exact .done _

/-- A program that asks goes on with the reply of the first exchange. -/
theorem runs_ask {asked : calls.Call} {next : calls.Reply asked → Program calls α} {ended : α}
    {exchanges : List (Exchange calls)} :
    (ask asked next).Runs exchanges ended ↔
      ∃ reply rest, exchanges = ⟨asked, reply⟩ :: rest ∧ (next reply).Runs rest ended := by
  constructor
  · -- Only the rule for programs that ask applies, and it names the reply.
    rintro (_ | rest)
    exact ⟨_, _, rfl, rest⟩
  · rintro ⟨reply, rest, rfl, runs⟩
    exact .ask runs

/-- Two programs in a row divide the exchanges between them. -/
theorem runs_bind {program : Program calls α} {next : α → Program calls β} {ended : β}
    {exchanges : List (Exchange calls)} :
    (program >>= next).Runs exchanges ended ↔
      ∃ earlier value later, exchanges = earlier ++ later ∧ program.Runs earlier value
        ∧ (next value).Runs later ended := by
  -- The first program's calls come first, so its exchanges are a prefix of all.
  induction program generalizing exchanges with
  | done value =>
    -- A program that is done leaves all exchanges to the second one.
    rw [done_bind]
    constructor
    · intro runs
      exact ⟨[], value, exchanges, rfl, .done value, runs⟩
    · rintro ⟨earlier, value, later, rfl, first, second⟩
      cases first
      exact second
  | ask asked rest step =>
    -- The first exchange belongs to the first program; the others are divided after its reply.
    rw [ask_bind, runs_ask]
    constructor
    · rintro ⟨reply, others, rfl, runs⟩
      obtain ⟨earlier, value, later, rfl, first, second⟩ := (step reply).mp runs
      exact ⟨⟨asked, reply⟩ :: earlier, value, later, rfl, .ask first, second⟩
    · rintro ⟨earlier, value, later, rfl, first, second⟩
      cases first with
      | @ask _ _ reply others _ first =>
        exact ⟨reply, others ++ later, rfl,
          (step reply).mpr ⟨others, value, later, rfl, first, second⟩⟩

/-- Of two programs in a row that may fail, the second runs only if the first succeeded. -/
theorem runs_run_bind {ε : Type} {program : ExceptT ε (Program calls) α}
    {next : α → ExceptT ε (Program calls) β} {ended : Except ε β}
    {exchanges : List (Exchange calls)} :
    (program >>= next).run.Runs exchanges ended ↔
      (∃ error, program.run.Runs exchanges (.error error) ∧ ended = .error error)
        ∨ ∃ earlier value later, exchanges = earlier ++ later
          ∧ program.run.Runs earlier (.ok value) ∧ (next value).run.Runs later ended := by
  rw [ExceptT.run_bind, runs_bind]
  constructor
  · rintro ⟨earlier, result, later, rfl, first, second⟩
    cases result with
    | error error =>
      -- A failure is handed on, and no further call is made.
      obtain ⟨rfl, rfl⟩ := runs_pure.mp second
      exact Or.inl ⟨error, by rwa [List.append_nil], rfl⟩
    | ok value => exact Or.inr ⟨earlier, value, later, rfl, first, second⟩
  · rintro (⟨error, first, rfl⟩ | ⟨earlier, value, later, rfl, first, second⟩)
    · exact ⟨exchanges, .error error, [], (List.append_nil _).symm, first,
        runs_pure.mpr ⟨rfl, rfl⟩⟩
    · exact ⟨earlier, .ok value, later, rfl, first, second⟩

/-- A run under a handler ends as its transcript has it. -/
theorem runs_transcript (handle : Handler calls σ) (program : Program calls α) (state : σ) :
    program.Runs (program.transcript handle state) (program.run handle state).1 := by
  -- Each call gets the handler's reply in the run and in the transcript alike.
  induction program generalizing state with
  | done value => exact .done value
  | ask asked rest step => exact .ask (step _ _)

/-- The replies of a transcript are the handler's. -/
theorem transcript_gives (handle : Handler calls σ) (program : Program calls α) (state : σ) :
    handle.Gives state (program.transcript handle state) := by
  -- The transcript passes on the handler's state after each call, as the run does.
  induction program generalizing state with
  | done value => trivial
  | ask asked rest step => exact ⟨rfl, step _ _⟩

/-- A handler that gives the replies of a run's exchanges makes the program run that way. -/
theorem Runs.of_gives {program : Program calls α} {exchanges : List (Exchange calls)} {value : α}
    (runs : program.Runs exchanges value) {handle : Handler calls σ} {state : σ}
    (gives : handle.Gives state exchanges) :
    (program.run handle state).1 = value ∧ program.transcript handle state = exchanges := by
  -- The handler's reply to the first call is the one that the run went on with.
  induction runs generalizing state with
  | done value => exact ⟨rfl, rfl⟩
  | @ask asked next reply exchanges value rest same =>
    obtain ⟨replied, later⟩ := gives
    obtain ⟨ends, calls⟩ := same later
    rw [run_ask, transcript, replied]
    exact ⟨ends, congrArg _ calls⟩

/-- The same exchanges cannot lead to two ends. -/
theorem Runs.unique {program : Program calls α} {exchanges : List (Exchange calls)}
    {first second : α} (one : program.Runs exchanges first)
    (other : program.Runs exchanges second) : first = second := by
  -- After equal replies both runs go on with the same program.
  induction one with
  | done value =>
    cases other
    rfl
  | ask rest same =>
    cases other with
    | ask others => exact same others

/-- The exchanges of calls that are each answered by a program, and those of these programs. -/
inductive Realised {others : Interface}
    (answer : (call : calls.Call) → Program others (calls.Reply call)) :
    List (Exchange calls) → List (Exchange others) → Prop where
  | nil : Realised answer [] []
  | cons {asked : calls.Call} {reply : calls.Reply asked} {exchanges : List (Exchange calls)}
      {own later : List (Exchange others)} (answered : (answer asked).Runs own reply)
      (rest : Realised answer exchanges later) :
      Realised answer (⟨asked, reply⟩ :: exchanges) (own ++ later)

/-- The first call is realised by the first exchanges, and the other calls by the others. -/
theorem realised_cons {others : Interface}
    {answer : (call : calls.Call) → Program others (calls.Reply call)} {asked : calls.Call}
    {reply : calls.Reply asked} {exchanges : List (Exchange calls)}
    {traffic : List (Exchange others)}
    (realised : Realised answer (⟨asked, reply⟩ :: exchanges) traffic) :
    ∃ own later, traffic = own ++ later ∧ (answer asked).Runs own reply
      ∧ Realised answer exchanges later := by
  cases realised with
  | cons answered rest => exact ⟨_, _, rfl, answered, rest⟩

/-- A program whose calls are answered by programs runs as it does by itself when its calls get the
replies that these programs end with. -/
theorem runs_interpret {others : Interface}
    {answer : (call : calls.Call) → Program others (calls.Reply call)} {program : Program calls α}
    {traffic : List (Exchange others)} {ended : α}
    (runs : (program.interpret answer).Runs traffic ended) :
    ∃ exchanges, program.Runs exchanges ended ∧ Realised answer exchanges traffic := by
  -- What answers the first call makes the first exchanges.
  induction program generalizing traffic with
  | done value =>
    obtain ⟨rfl, rfl⟩ := runs_pure.mp runs
    exact ⟨[], .done _, .nil⟩
  | ask asked next step =>
    obtain ⟨own, reply, later, rfl, answered, runs⟩ := runs_bind.mp runs
    obtain ⟨exchanges, rest, realised⟩ := step reply runs
    exact ⟨⟨asked, reply⟩ :: exchanges, .ask rest, .cons answered realised⟩

/-- Whatever the replies are, the program makes no other calls than these. -/
def MakesOnly (allowed : calls.Call → Prop) : Program calls α → Prop
  | done _ => True
  | ask asked next => allowed asked ∧ ∀ reply, (next reply).MakesOnly allowed

/-- A program comes to an end when its calls can be answered at all. -/
theorem exists_runs (answerable : ∀ call, Nonempty (calls.Reply call))
    (program : Program calls α) : ∃ exchanges ended, program.Runs exchanges ended := by
  induction program with
  | done value => exact ⟨[], value, .done value⟩
  | ask asked next ends =>
    -- Any reply will do, since the program ends after each of them.
    obtain ⟨reply⟩ := answerable asked
    obtain ⟨exchanges, ended, runs⟩ := ends reply
    exact ⟨⟨asked, reply⟩ :: exchanges, ended, .ask runs⟩

/-- Of two programs in a row both make only calls that are allowed. -/
theorem MakesOnly.bind {allowed : calls.Call → Prop} {program : Program calls α}
    {next : α → Program calls β} (makes : program.MakesOnly allowed)
    (later : ∀ value, (next value).MakesOnly allowed) : (program >>= next).MakesOnly allowed := by
  induction program with
  | done value => exact later value
  | ask asked rest bound => exact ⟨makes.1, fun reply => bound reply (makes.2 reply)⟩

/-- Calls that are allowed stay allowed where more are. -/
theorem MakesOnly.mono {allowed wider : calls.Call → Prop} {program : Program calls α}
    (makes : program.MakesOnly allowed) (widens : ∀ call, allowed call → wider call) :
    program.MakesOnly wider := by
  induction program with
  | done value => trivial
  | ask asked next widened => exact ⟨widens asked makes.1, fun reply => widened reply (makes.2 reply)⟩

/-- A program whose runs have no other calls makes no others, not even in a run that is broken off. -/
theorem makesOnly_of_runs (answerable : ∀ call, Nonempty (calls.Reply call))
    {allowed : calls.Call → Prop} {program : Program calls α}
    (listed : ∀ exchanges ended, program.Runs exchanges ended →
      ∀ exchange ∈ exchanges, allowed exchange.call) : program.MakesOnly allowed := by
  induction program with
  | done value => trivial
  | ask asked next makes =>
    constructor
    · -- Some run of the program begins with this call.
      obtain ⟨exchanges, ended, runs⟩ := exists_runs answerable (ask asked next)
      obtain ⟨reply, rest, rfl, _⟩ := runs_ask.mp runs
      exact listed _ ended runs _ List.mem_cons_self
    · -- What is run after a reply is the rest of a run of the whole program.
      intro reply
      refine makes reply fun exchanges ended runs exchange member => ?_
      exact listed _ ended (.ask runs) exchange (List.mem_cons_of_mem ⟨asked, reply⟩ member)

end Program

end DatabaseLifecycle

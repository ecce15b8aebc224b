import DatabaseLifecycle.Proofs.Transcript
import DatabaseLifecycle.Workflow.Call

/-! The exchanges of a workflow: calls to the cluster, lines of failures, and time that passes. -/

namespace DatabaseLifecycle

/-- The exchanges of a run of a workflow. -/
abbrev Exchanges : Type := List (Exchange Call.interface)

/-- Every call can be answered. -/
theorem Call.nonempty_reply (call : Call) : Nonempty call.Reply := by
  cases call with
  | create _ _ | fetch _ _ _ | delete _ _ _ | connect _ | lookup _ => exact ⟨.error default⟩
  | sleep _ | log _ => exact ⟨()⟩

/-- Whether a call goes to the cluster. -/
def Call.isStoreCall : Call → Bool
  | create _ _ | fetch _ _ _ | delete _ _ _ => true
  | connect _ | lookup _ | sleep _ | log _ => false

/-- The milliseconds that pass in a call. -/
def Call.duration : Call → Nat
  | sleep milliseconds => milliseconds
  | _ => 0

namespace Exchanges

/-- The exchanges with the cluster. -/
def ofStore (exchanges : Exchanges) : Exchanges := exchanges.filter (·.call.isStoreCall)

/-- The milliseconds that pass in all exchanges. -/
def duration : Exchanges → Nat
  | [] => 0
  | exchange :: rest => exchange.call.duration + duration rest

/-- No exchanges, none with the cluster. -/
@[simp] theorem ofStore_nil : ofStore [] = [] := rfl

/-- The first exchange is kept if it is one with the cluster. -/
@[simp] theorem ofStore_cons (exchange : Exchange Call.interface) (rest : Exchanges) :
    ofStore (exchange :: rest) =
      if exchange.call.isStoreCall then exchange :: rest.ofStore else rest.ofStore :=
  List.filter_cons

/-- The exchanges with the cluster of two runs in a row are in a row. -/
@[simp] theorem ofStore_append (earlier later : Exchanges) :
    ofStore (earlier ++ later) = ofStore earlier ++ ofStore later := List.filter_append ..

/-- No exchanges, no time. -/
@[simp] theorem duration_nil : duration [] = 0 := rfl

end Exchanges

/-- The cause for which a result is a failure. -/
def failure? {α : Type} : Except Error α → Option Error
  | .ok _ => none
  | .error error => some error

/-- The outcome of a step whose operation had this result. -/
def Outcome.ofResult {α : Type} : Except Error α → Outcome
  | .ok _ => .completed
  | .error error => .failed error.message

/-- An operation that was carried out is never a skipped step. -/
theorem Outcome.ofResult_ne_skipped {α : Type} (result : Except Error α) :
    ofResult result ≠ .skipped := by
  cases result <;> simp [ofResult]

/-- A step is completed exactly when its operation succeeded. -/
theorem Outcome.ofResult_eq_completed {α : Type} {result : Except Error α} :
    ofResult result = .completed ↔ ∃ value, result = .ok value := by
  cases result <;> simp [ofResult]

namespace Workflow

/-- The exchange that logs a failure; nothing is logged on success. -/
def failureLog {α : Type} (operation : String) (result : Except Error α) : Exchanges :=
  match failure? result with
  | none => []
  | some error => [⟨.log (error.failureLine operation), ()⟩]

/-- A line of a failure is no call to the cluster. -/
@[simp] theorem ofStore_failureLog {α : Type} (operation : String) (result : Except Error α) :
    (failureLog operation result).ofStore = [] := by
  -- There is one line or none, and neither reaches the cluster.
  cases result <;> rfl

/-- A call on its own is one exchange, and its reply is the result. -/
theorem runs_call {asked : Call} {reply : asked.Reply} {exchanges : Exchanges} :
    (call asked).Runs exchanges reply ↔ exchanges = [⟨asked, reply⟩] := by
  constructor
  · intro runs
    obtain ⟨given, rest, rfl, ended⟩ := Program.runs_ask.mp runs
    obtain ⟨rfl, rfl⟩ := Program.runs_pure.mp ended
    rfl
  · rintro rfl
    exact .ask (.done reply)

/-- Going on after one call is an exchange followed by what its reply leads to. -/
theorem runs_call_bind {α : Type} {asked : Call} {next : asked.Reply → Workflow α} {ended : α}
    {exchanges : Exchanges} :
    (call asked >>= next).Runs exchanges ended ↔
      ∃ reply rest, exchanges = ⟨asked, reply⟩ :: rest ∧ (next reply).Runs rest ended :=
  Program.runs_ask

/-- Going on after a submission is an exchange followed by what its reply leads to. -/
theorem runs_create_bind {α : Type} {kind : Kind} {record : kind.Record}
    {next : Except Error kind.Record → Workflow α} {ended : α} {exchanges : Exchanges} :
    (create kind record >>= next).Runs exchanges ended ↔
      ∃ (reply : Except Error kind.Record) (rest : Exchanges),
        exchanges = ⟨.create kind record, reply⟩ :: rest ∧ (next reply).Runs rest ended :=
  runs_call_bind

/-- Going on after a deletion is an exchange followed by what its reply leads to. -/
theorem runs_delete_bind {α : Type} {kind : Kind} {namespaceName name : String}
    {next : Except Error Unit → Workflow α} {ended : α} {exchanges : Exchanges} :
    (delete kind namespaceName name >>= next).Runs exchanges ended ↔
      ∃ (reply : Except Error Unit) (rest : Exchanges),
        exchanges = ⟨.delete kind namespaceName name, reply⟩ :: rest
          ∧ (next reply).Runs rest ended :=
  runs_call_bind

/-- Going on after a pause is an exchange followed by the rest. -/
theorem runs_sleep_bind {α : Type} {milliseconds : Nat} {next : Unit → Workflow α} {ended : α}
    {exchanges : Exchanges} :
    (sleep milliseconds >>= next).Runs exchanges ended ↔
      ∃ rest : Exchanges, exchanges = ⟨.sleep milliseconds, ()⟩ :: rest
        ∧ (next ()).Runs rest ended := by
  -- A pause has only one reply, so that need not be named.
  constructor
  · intro runs
    obtain ⟨_, rest, same, runs⟩ := runs_call_bind.mp runs
    exact ⟨rest, same, runs⟩
  · rintro ⟨rest, same, runs⟩
    exact runs_call_bind.mpr ⟨(), rest, same, runs⟩

/-- A logged failure is one line, and the cause is handed on. -/
theorem runs_logFailure {operation : String} {error handed : Error} {exchanges : Exchanges} :
    (logFailure operation error).Runs exchanges handed ↔
      exchanges = [⟨.log (error.failureLine operation), ()⟩] ∧ handed = error := by
  -- The line is the only call, and nothing depends on its reply.
  unfold logFailure
  rw [runs_call_bind]
  constructor
  · rintro ⟨_, rest, rfl, ended⟩
    obtain ⟨rfl, rfl⟩ := Program.runs_pure.mp ended
    exact ⟨rfl, rfl⟩
  · rintro ⟨rfl, rfl⟩
    exact ⟨(), [], rfl, Program.runs_pure.mpr ⟨rfl, rfl⟩⟩

/-- A logged result is handed on, with one line if it is a failure. -/
theorem runs_logged {α : Type} {operation : String} {result handed : Except Error α}
    {exchanges : Exchanges} :
    (logged operation result).Runs exchanges handed ↔
      exchanges = failureLog operation result ∧ handed = result := by
  cases result with
  | ok value => exact Program.runs_pure
  | error error =>
    -- The line is written before the cause is handed on.
    simp only [logged, Program.runs_bind, runs_logFailure, Program.runs_pure]
    constructor
    · rintro ⟨_, _, _, rfl, ⟨rfl, rfl⟩, rfl, rfl⟩
      exact ⟨rfl, rfl⟩
    · rintro ⟨rfl, rfl⟩
      exact ⟨_, _, _, rfl, ⟨rfl, rfl⟩, rfl, rfl⟩

/-- A workflow whose failure is logged makes its own exchanges first. -/
theorem runs_bind_logged {α : Type} {program : Workflow (Except Error α)} {operation : String}
    {ended : Except Error α} {exchanges : Exchanges} :
    (program >>= logged operation).Runs exchanges ended ↔
      ∃ calls, program.Runs calls ended ∧ exchanges = calls ++ failureLog operation ended := by
  rw [Program.runs_bind]
  constructor
  · rintro ⟨calls, result, _, rfl, runs, logging⟩
    obtain ⟨rfl, rfl⟩ := runs_logged.mp logging
    exact ⟨calls, runs, rfl⟩
  · rintro ⟨calls, runs, rfl⟩
    exact ⟨calls, ended, _, rfl, runs, runs_logged.mpr ⟨rfl, rfl⟩⟩

/-- Noting a result logs its failure and adds one step with its outcome. -/
theorem runs_note {α : Type} {report noted : Report} {step : Step} {operation : String}
    {result : Except Error α} {exchanges : Exchanges} :
    (note report step operation result).Runs exchanges noted ↔
      exchanges = failureLog operation result ∧ noted = report.add step (.ofResult result) := by
  cases result with
  | ok value =>
    -- A success is noted without a call.
    exact Program.runs_pure
  | error error =>
    -- A failure is logged before its step is added.
    simp only [note, Program.runs_bind, runs_logFailure, Program.runs_pure]
    constructor
    · rintro ⟨_, _, _, rfl, ⟨rfl, rfl⟩, rfl, rfl⟩
      exact ⟨rfl, rfl⟩
    · rintro ⟨rfl, rfl⟩
      exact ⟨_, _, _, rfl, ⟨rfl, rfl⟩, rfl, rfl⟩

/-- The report with a step whose failure fails the run. -/
def addHard (report : Report) (step : Step) (result : Except Error Unit) : Report :=
  { report.add step (.ofResult result) with error := report.error <|> failure? result }

/-- Noting a hard result logs its failure and keeps the first such cause. -/
theorem runs_noteHard {report noted : Report} {step : Step} {operation : String}
    {result : Except Error Unit} {exchanges : Exchanges} :
    (noteHard report step operation result).Runs exchanges noted ↔
      exchanges = failureLog operation result ∧ noted = addHard report step result := by
  cases result with
  | ok value =>
    -- A success leaves the cause of an earlier failure as it is.
    have kept : addHard report step (.ok value) = report.completed step := by
      simp [addHard, failure?, Report.completed, Report.add, Outcome.ofResult]
    rw [kept]
    exact Program.runs_pure
  | error error =>
    -- A failure is logged, and its cause counts only if it is the first.
    simp only [noteHard, Program.runs_bind, runs_logFailure, Program.runs_pure]
    constructor
    · rintro ⟨_, _, _, rfl, ⟨rfl, rfl⟩, rfl, rfl⟩
      exact ⟨rfl, rfl⟩
    · rintro ⟨rfl, rfl⟩
      exact ⟨_, _, _, rfl, ⟨rfl, rfl⟩, rfl, rfl⟩

end Workflow

end DatabaseLifecycle

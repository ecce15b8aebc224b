import DatabaseLifecycle.Cli.Session
import DatabaseLifecycle.Proofs.Cluster.Traffic

/-!
What a command carries out is its workflow over the server of the cluster: the calls come to the same
requests, and only the sending of them is left to what lies around the program.
-/

namespace DatabaseLifecycle

namespace Program

variable {calls : Interface} {α β : Type} {m : Type → Type} [Monad m]

/-- A program that is done is interpreted as done. -/
@[simp] theorem interpret_pure (answer : (call : calls.Call) → m (calls.Reply call)) (value : α) :
    (pure value : Program calls α).interpret answer = pure value := rfl

variable [LawfulMonad m]

/-- Two programs in a row are interpreted in a row. -/
@[simp] theorem interpret_bind (answer : (call : calls.Call) → m (calls.Reply call))
    (program : Program calls α) (next : α → Program calls β) :
    (program >>= next).interpret answer
      = program.interpret answer >>= fun value => (next value).interpret answer := by
  -- The first call is answered first in either case.
  induction program with
  | done value => rw [done_bind, interpret, pure_bind]
  | ask asked rest step =>
    rw [ask_bind, interpret, interpret, bind_assoc]
    exact congrArg _ (funext step)

/-- A program whose value is changed in the end is interpreted with its value changed. -/
@[simp] theorem interpret_map (answer : (call : calls.Call) → m (calls.Reply call)) (change : α → β)
    (program : Program calls α) :
    (change <$> program).interpret answer = change <$> program.interpret answer := by
  rw [map_eq_pure_bind, map_eq_pure_bind, interpret_bind]
  rfl

/-- Programs that answer calls can be interpreted one by one. -/
theorem interpret_interpret {others : Interface}
    (answer : (call : calls.Call) → Program others (calls.Reply call))
    (later : (call : others.Call) → m (others.Reply call)) (program : Program calls α) :
    (program.interpret answer).interpret later
      = program.interpret fun call => (answer call).interpret later := by
  -- What answers the first call is interpreted before the rest.
  induction program with
  | done value => rfl
  | ask asked rest step =>
    rw [interpret, interpret, interpret_bind]
    exact congrArg _ (funext step)

end Program

namespace Cli.Surroundings

open Cluster Workflow

variable {m : Type → Type} [Monad m] [LawfulMonad m] (around : Surroundings m)
  (address : Cluster.Address)

/-- Answers requests with the cluster at an address, and other calls as a workflow's. -/
def traffic : (asked : Traffic) → StateT Credentials m asked.Reply
  | .send request => StateT.lift (address.guard (around.sendToCluster address) request)
  | .pass call => around.answer address call

/-- An exchange over the server is one with the cluster at the address. -/
theorem interpret_exchange {α : Type} (request : Except ClusterFailure Request)
    (read : Http.Response → Except ClusterFailure α) :
    (exchange sendToServer request read).interpret (around.traffic address)
      = StateT.lift (exchange (address.guard (around.sendToCluster address)) request read) := by
  -- Neither side looks at the credentials in force or changes them.
  refine StateT.ext fun credentials => ?_
  cases request with
  | error failure => simp [exchange]
  | ok request =>
    rw [exchange_posed, Program.interpret]
    simp only [exchange, traffic, Program.interpret_pure, StateT.run_bind, StateT.run_lift,
      StateT.run_pure, bind_assoc, pure_bind]
    congr 1
    funext answer
    cases answer <;> rw [pure_bind] <;> rfl

/-- What the program around a workflow does for a call is what the call comes to over the server. -/
theorem interpret_overServer (call : Call) :
    (overServer call).interpret (around.traffic address) = around.answer address call := by
  -- What the client makes of an exchange is the same on both sides; other calls are passed on.
  cases call with
  | create kind record =>
    refine StateT.ext fun credentials => ?_
    simp [overServer, answer, Cluster.create, interpret_exchange]
  | fetch kind namespaceName name =>
    refine StateT.ext fun credentials => ?_
    simp [overServer, answer, Cluster.fetch, interpret_exchange]
  | delete kind namespaceName name =>
    refine StateT.ext fun credentials => ?_
    simp only [overServer, answer, Cluster.delete, Program.interpret_bind, interpret_exchange,
      StateT.run_bind, StateT.run_lift, bind_assoc, pure_bind]
    congr 1
    funext ended
    rcases ended with failure | _ <;> rw [pure_bind] <;> rfl
  | connect credentials => exact bind_pure _
  | lookup wanted => exact bind_pure _
  | sleep milliseconds => exact bind_pure _
  | log line => exact bind_pure _

/-- What a command carries out is its workflow over the server of the cluster. -/
theorem perform_eq_overServer {α : Type} (workflow : Workflow α) :
    around.perform address workflow
      = ((workflow.interpret overServer).interpret (around.traffic address)).run'
        { endpoint := "", username := "", password := "" } := by
  rw [Program.interpret_interpret, funext (around.interpret_overServer address)]
  rfl

end Cli.Surroundings

end DatabaseLifecycle

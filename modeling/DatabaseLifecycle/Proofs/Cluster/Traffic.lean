import DatabaseLifecycle.Cluster.Client
import DatabaseLifecycle.Proofs.Workflow.Wait
import DatabaseLifecycle.Store.Records

/-!
Workflows over the server of a cluster: what their calls come to as requests, and what a fetch that is
made again and again comes to.
-/

namespace DatabaseLifecycle

/-- What a workflow does over the server of a cluster. -/
inductive Traffic where
  /-- A request is sent to the server. -/
  | send (request : Cluster.Request)
  /-- A call is made that does not go to the server. -/
  | pass (call : Call)

/-- The answer to a request, or the reply to a call. -/
@[reducible] def Traffic.Reply : Traffic → Type
  | send _ => Except ClusterFailure Http.Response
  | pass call => call.Reply

/-- The interface to the server of a cluster, and to whatever else a workflow calls. -/
@[reducible] def Traffic.interface : Interface := ⟨Traffic, Traffic.Reply⟩

namespace Workflow

/-- Sends a request to the server of a cluster. -/
def sendToServer : Cluster.Transport (Program Traffic.interface) :=
  fun request => @Program.call Traffic.interface (.send request)

/-- Makes a call that does not go to the server. -/
def pass (call : Call) : Program Traffic.interface call.Reply :=
  @Program.call Traffic.interface (.pass call)

/-- What a call comes to when the client keeps the records: the cluster is sent requests. -/
def overServer : (call : Call) → Program Traffic.interface call.Reply
  | .create kind record => Cluster.create sendToServer kind record
  | .fetch kind namespaceName name => Cluster.fetch sendToServer kind namespaceName name
  | .delete kind namespaceName name => Cluster.delete sendToServer kind namespaceName name
  | .connect credentials => pass (.connect credentials)
  | .lookup wanted => pass (.lookup wanted)
  | .sleep milliseconds => pass (.sleep milliseconds)
  | .log line => pass (.log line)

end Workflow

namespace Cluster

/-- The cause that is reported when a record cannot be fetched. -/
def fetchError (kind : Kind) (place : RecordKey) (failure : ClusterFailure) : Error :=
  if saysAbsent failure then .notFound kind.name (place.namespaceName ++ "/" ++ place.name)
  else .cluster failure

/-- What comes of fetching a record when the server answers the request in this way. -/
def reading (kind : Kind) (place : RecordKey)
    (answer : Request → Except ClusterFailure Http.Response) : Except ClusterFailure kind.Record := do
  let request ← fetchRequest kind place.namespaceName place.name
  let response ← answer request
  readRecord kind response

/-- The reply to a fetch whose request got this answer. -/
def replyTo (kind : Kind) (place : RecordKey) (answer : Except ClusterFailure Http.Response) :
    Except Error kind.Record :=
  (answer >>= readRecord kind).mapError (fetchError kind place)

/-- The reply to a fetch when the server answers the request in this way. -/
def fetched (kind : Kind) (place : RecordKey)
    (answer : Request → Except ClusterFailure Http.Response) : Except Error kind.Record :=
  (reading kind place answer).mapError (fetchError kind place)

end Cluster

namespace Workflow

open Cluster

variable {kind : Kind} {place : RecordKey} {traffic : List (Exchange Traffic.interface)}

/-- What comes of a fetch is read off the answer to its request. -/
theorem fetched_of_posed {request : Request}
    (posed : fetchRequest kind place.namespaceName place.name = .ok request)
    (answer : Request → Except ClusterFailure Http.Response) :
    fetched kind place answer = replyTo kind place (answer request) := by
  rw [fetched, reading, posed]
  rfl

/-- A fetch that no request can be made of fails for that cause. -/
theorem fetched_of_unposed {failure : ClusterFailure}
    (unposed : fetchRequest kind place.namespaceName place.name = .error failure)
    (answer : Request → Except ClusterFailure Http.Response) :
    fetched kind place answer = .error (fetchError kind place failure) := by
  rw [fetched, reading, unposed]
  rfl

/-- An exchange with the server is one request, and its answer is read unless there is none. -/
theorem exchange_posed {α : Type} (request : Request)
    (read : Http.Response → Except ClusterFailure α) :
    exchange sendToServer (.ok request) read
      = @Program.ask Traffic.interface _ (.send request) fun answer => pure (answer >>= read) := by
  -- Both sides send the request first; they differ in how they look at the answer.
  refine congrArg (@Program.ask Traffic.interface _ (.send request)) (funext fun answer => ?_)
  cases answer with
  | error failure => rfl
  | ok response => rfl

/-- A fetch sends one request, and the reply is what comes of the answer. -/
theorem runs_fetch_posed {request : Request} {reply : Except Error kind.Record}
    (posed : fetchRequest kind place.namespaceName place.name = .ok request)
    (runs : (overServer (.fetch kind place.namespaceName place.name)).Runs traffic reply) :
    ∃ answer, traffic = [⟨.send request, answer⟩] ∧ reply = replyTo kind place answer := by
  change (Cluster.fetch sendToServer kind place.namespaceName place.name).Runs traffic reply at runs
  rw [Cluster.fetch, posed, exchange_posed, Program.ask_bind, Program.runs_ask] at runs
  obtain ⟨answer, _, rfl, runs⟩ := runs
  rw [pure_bind, Program.runs_pure] at runs
  obtain ⟨rfl, rfl⟩ := runs
  exact ⟨answer, rfl, rfl⟩

/-- A fetch that no request can be made of sends none. -/
theorem runs_fetch_unposed {failure : ClusterFailure} {reply : Except Error kind.Record}
    (unposed : fetchRequest kind place.namespaceName place.name = .error failure)
    (runs : (overServer (.fetch kind place.namespaceName place.name)).Runs traffic reply) :
    traffic = [] ∧ reply = .error (fetchError kind place failure) := by
  change (Cluster.fetch sendToServer kind place.namespaceName place.name).Runs traffic reply at runs
  rw [Cluster.fetch, unposed, exchange, pure_bind, Program.runs_pure] at runs
  exact runs

/-- Time passes without a request. -/
theorem runs_sleep {milliseconds : Nat} {reply : Unit}
    (runs : (overServer (.sleep milliseconds)).Runs traffic reply) :
    traffic = [⟨.pass (.sleep milliseconds), ()⟩] := by
  change (@Program.ask Traffic.interface Unit (.pass (.sleep milliseconds)) pure).Runs traffic reply
    at runs
  rw [Program.runs_ask] at runs
  obtain ⟨_, _, rfl, ended⟩ := runs
  obtain ⟨rfl, -⟩ := Program.runs_pure.mp ended
  rfl

/-- The first of several spaced calls is followed by a pause and by the others. -/
theorem realised_spaced_cons {asked : Call} {interval : Nat} {reply : asked.Reply}
    {replies : List asked.Reply} (more : replies ≠ [])
    (realised : Program.Realised overServer (spaced asked interval (reply :: replies)) traffic) :
    ∃ own later : List (Exchange Traffic.interface),
      traffic = own ++ ⟨.pass (.sleep interval), ()⟩ :: later
      ∧ (overServer asked).Runs own reply
      ∧ Program.Realised overServer (spaced asked interval replies) later := by
  -- The call and the pause after it are realised one after the other.
  rw [spaced_cons more] at realised
  obtain ⟨own, _, rfl, answered, pausing⟩ := Program.realised_cons realised
  obtain ⟨_, later, rfl, sleeping, rest⟩ := Program.realised_cons pausing
  obtain rfl := runs_sleep sleeping
  exact ⟨own, later, rfl, answered, rest⟩

/-- Requests that got these answers, with a pause between each two. -/
def requested (request : Request) (interval : Nat)
    (given : List (Except ClusterFailure Http.Response)) : List (Exchange Traffic.interface) :=
  @Exchange.alternating Traffic.interface (.send request) (.pass (.sleep interval)) () given

/-- Fetches with pauses between them send the request again and again, with these pauses between. -/
theorem realised_posed {request : Request} {interval : Nat}
    {replies : List (Except Error kind.Record)}
    (posed : fetchRequest kind place.namespaceName place.name = .ok request)
    (realised : Program.Realised overServer
      (spaced (.fetch kind place.namespaceName place.name) interval replies) traffic) :
    ∃ given, replies = given.map (replyTo kind place)
      ∧ traffic = requested request interval given := by
  -- Each fetch sends the request once, and the fetches after it are left to the induction.
  induction replies generalizing traffic with
  | nil =>
    cases realised
    exact ⟨[], rfl, rfl⟩
  | cons reply others step =>
    cases others with
    | nil =>
      obtain ⟨_, _, rfl, fetching, nothing⟩ := Program.realised_cons realised
      obtain ⟨answer, rfl, rfl⟩ := runs_fetch_posed posed fetching
      cases nothing
      exact ⟨[answer], rfl, rfl⟩
    | cons second others =>
      obtain ⟨_, _, rfl, fetching, rest⟩ := realised_spaced_cons (by simp) realised
      obtain ⟨answer, rfl, rfl⟩ := runs_fetch_posed posed fetching
      obtain ⟨given, replied, rfl⟩ := step rest
      -- There is a second reply, so there is an answer that it was read off.
      have more : given ≠ [] := by
        rintro rfl
        cases replied
      refine ⟨answer :: given, ?_, (Exchange.alternating_cons more).symm⟩
      rw [List.map_cons, ← replied]

/-- Fetches that no request can be made of fail alike, and only the pauses between them are left. -/
theorem realised_unposed {failure : ClusterFailure} {interval : Nat}
    {replies : List (Except Error kind.Record)}
    (unposed : fetchRequest kind place.namespaceName place.name = .error failure)
    (realised : Program.Realised overServer
      (spaced (.fetch kind place.namespaceName place.name) interval replies) traffic) :
    replies = List.replicate replies.length (.error (fetchError kind place failure))
      ∧ traffic = List.replicate (replies.length - 1) ⟨.pass (.sleep interval), ()⟩ := by
  -- No fetch leaves an exchange, and each one but the last is followed by a pause.
  induction replies generalizing traffic with
  | nil =>
    cases realised
    exact ⟨rfl, rfl⟩
  | cons reply others step =>
    cases others with
    | nil =>
      obtain ⟨_, _, rfl, fetching, nothing⟩ := Program.realised_cons realised
      obtain ⟨rfl, rfl⟩ := runs_fetch_unposed unposed fetching
      cases nothing
      exact ⟨rfl, rfl⟩
    | cons second others =>
      obtain ⟨_, _, rfl, fetching, rest⟩ := realised_spaced_cons (by simp) realised
      obtain ⟨rfl, rfl⟩ := runs_fetch_unposed unposed fetching
      obtain ⟨replied, rfl⟩ := step rest
      exact ⟨congrArg _ replied, rfl⟩

end Workflow

end DatabaseLifecycle

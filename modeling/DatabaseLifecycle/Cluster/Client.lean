import DatabaseLifecycle.Cluster.Request
import DatabaseLifecycle.Cluster.Response

/-!
The cluster as a keeper of records. A record that does not exist is told apart from other failures,
and deleting one that does not exist succeeds. How requests are sent is left open.
-/

namespace DatabaseLifecycle.Cluster

variable {m : Type → Type} [Monad m]

/-- How requests are sent and answered. -/
abbrev Transport (m : Type → Type) : Type := Request → m (Except ClusterFailure Http.Response)

/-- What an answer says, or the failure to get one. -/
def exchange {α : Type} (send : Transport m) (request : Except ClusterFailure Request)
    (read : Http.Response → Except ClusterFailure α) : m (Except ClusterFailure α) := do
  match request with
  | .error failure => return .error failure
  | .ok request =>
    match ← send request with
    | .error failure => return .error failure
    | .ok response => return read response

/-- Whether a failure says that there is no such record. -/
def saysAbsent : ClusterFailure → Bool
  | .refused refusal => refusal.code == 404
  | _ => false

/-- Submits a record. -/
def create (send : Transport m) (kind : Kind) (record : kind.Record) :
    m (Except Error kind.Record) := do
  return (← exchange send (createRequest kind record) (readRecord kind)).mapError .cluster

/-- Fetches a record. -/
def fetch (send : Transport m) (kind : Kind) (namespaceName name : String) :
    m (Except Error kind.Record) := do
  return (← exchange send (fetchRequest kind namespaceName name) (readRecord kind)).mapError
    fun failure =>
      if saysAbsent failure then .notFound kind.name (namespaceName ++ "/" ++ name)
      else .cluster failure

/-- Deletes a record. -/
def delete (send : Transport m) (kind : Kind) (namespaceName name : String) :
    m (Except Error Unit) := do
  match ← exchange send (deleteRequest kind namespaceName name) (readDeletion kind) with
  | .ok () => return .ok ()
  | .error failure => return if saysAbsent failure then .ok () else .error (.cluster failure)

end DatabaseLifecycle.Cluster

import DatabaseLifecycle.Proofs.Resource.Secret
import DatabaseLifecycle.Proofs.Workflow.ReadBack

/-!
The control plane's view of a database: when its records are resolved, it is looked up under what the
fetched record says, and the first call that fails is the last one.
-/

namespace DatabaseLifecycle

/-- Whether a call asks the cluster or a control plane for something. -/
def Call.isRequest : Call → Bool
  | create _ _ | fetch _ _ _ | delete _ _ _ | connect _ | lookup _ => true
  | sleep _ | log _ => false

/-- The cause for which a call failed, if it can fail and did. -/
def Exchange.failure? : Exchange Call.interface → Option Error
  | ⟨.create _ _, reply⟩ | ⟨.fetch _ _ _, reply⟩ | ⟨.delete _ _ _, reply⟩ | ⟨.connect _, reply⟩
  | ⟨.lookup _, reply⟩ => DatabaseLifecycle.failure? reply
  | ⟨.sleep _, _⟩ | ⟨.log _, _⟩ => none

namespace Exchanges

/-- The exchanges with the cluster and with control planes. -/
def requests (exchanges : Exchanges) : Exchanges := exchanges.filter (·.call.isRequest)

/-- The requests of two runs in a row are in a row. -/
@[simp] theorem requests_append (earlier later : Exchanges) :
    requests (earlier ++ later) = requests earlier ++ requests later := List.filter_append ..

/-- A line of a failure is no request. -/
@[simp] theorem requests_failureLog {α : Type} (operation : String) (result : Except Error α) :
    requests (Workflow.failureLog operation result) = [] := by
  cases result <;> rfl

end Exchanges

namespace Secret

/-- What a secret gives under a key, whether as a text or as bytes; nothing is an empty text. -/
def given (secret : Secret) (key : String) : String :=
  ((secret.text? key).or (secret.decoded? key)).getD ""

/-- A value for credentials must not be empty. -/
theorem credentials_value (secret : Secret) (name key : String) :
    Credentials.value name secret.values key =
      if secret.given key = "" then
        .error (.invalidCredential name ("'" ++ key ++ "' is missing or empty"))
      else .ok (secret.given key) := by
  rw [Credentials.value, find?_values, given]
  cases (secret.text? key).or (secret.decoded? key) with
  | none => rfl
  | some value =>
    by_cases empty : value = ""
    · simp [empty, Option.filter]
    · simp [empty, Option.filter]

end Secret

/-- How a lookup by a database record ends, and the exchange that it takes. -/
inductive StatusLookup (record : Database) : Exchanges → Except Error ManagedDatabase → Prop where
  | unassigned (empty : record.controlPlaneId = "") :
      StatusLookup record []
        (.error (.notFound "control plane id for Database" record.metadata.effectiveName))
  | clone {spec : CloneSpec} {reply : Except Error ManagedDatabase}
      (assigned : record.controlPlaneId ≠ "") (mode : record.spec.mode = .clone spec) :
      StatusLookup record [⟨.lookup (.clone record.controlPlaneId), reply⟩] reply
  | fresh {spec : InstanceSpec} {reply : Except Error ManagedDatabase}
      (assigned : record.controlPlaneId ≠ "") (mode : record.spec.mode = .fresh spec) :
      StatusLookup record [⟨.lookup (.database record.controlPlaneId), reply⟩] reply

/-- How the control plane's view of a database is come by when the server registration and the database
are looked for at these places, and all exchanges that it takes. -/
inductive StatusResolution (registration home : RecordKey) :
    Exchanges → Except Error ManagedDatabase → Prop where
  | unconnected {calls : Exchanges} {error : Error}
      (connecting : Connecting registration home calls (.error error)) :
      StatusResolution registration home
        (calls ++ [⟨.log (error.failureLine "resolve"), ()⟩]) (.error error)
  | connected {calls lookups : Exchanges} {record : Database} {ended : Except Error ManagedDatabase}
      (connecting : Connecting registration home calls (.ok record))
      (viewing : StatusLookup record lookups ended) :
      StatusResolution registration home
        (calls ++ lookups ++ Workflow.failureLog "resolve_status" ended) ended

namespace Workflow

variable {bundle : Bundle} {exchanges : Exchanges} {registration home : RecordKey}

/-- The credentials are those of the fetched registration and its secret, in which the username is
looked for first. -/
theorem credentialsOf_eq (server : Server) (secret : Secret) :
    credentialsOf server secret =
      if secret.given "username" = "" then
        .error (.invalidCredential server.spec.credentialSecret "'username' is missing or empty")
      else if secret.given "password" = "" then
        .error (.invalidCredential server.spec.credentialSecret "'password' is missing or empty")
      else .ok {
        endpoint := server.spec.server
        username := secret.given "username"
        password := secret.given "password"
        tenant := server.spec.tenant.filter (· ≠ "")
        insecure := server.spec.skipCertificateVerification } := by
  have username := secret.credentials_value server.spec.credentialSecret "username"
  have password := secret.credentials_value server.spec.credentialSecret "password"
  have tenant : server.spec.tenant.filter (!·.isEmpty) = server.spec.tenant.filter (· ≠ "") := by
    congr 1
    funext name
    by_cases empty : name = "" <;> simp [empty]
  unfold credentialsOf Credentials.ofSecret
  rw [Credentials.usernameKey, Credentials.passwordKey, username, password]
  by_cases nameless : secret.given "username" = ""
  · rw [if_pos nameless, if_pos nameless]
    rfl
  · rw [if_neg nameless, if_neg nameless]
    by_cases keyless : secret.given "password" = ""
    · rw [if_pos keyless, if_pos keyless]
      rfl
    · rw [if_neg keyless, if_neg keyless, ← tenant]
      rfl

/-- The lookup of a record is made with its own identifier, as a clone or as an instance. -/
theorem runs_statusLookup {record : Database} {ended : Except Error ManagedDatabase} :
    (statusLookup record).run.Runs exchanges ended ↔ StatusLookup record exchanges ended := by
  have emptiness : record.controlPlaneId.isEmpty = true ↔ record.controlPlaneId = "" :=
    String.isEmpty_iff
  unfold statusLookup
  constructor
  · intro runs
    by_cases empty : record.controlPlaneId = ""
    · rw [if_pos (emptiness.mpr empty)] at runs
      obtain ⟨rfl, rfl⟩ := Program.runs_pure.mp runs
      exact .unassigned empty
    · rw [if_neg (mt emptiness.mp empty)] at runs
      cases mode : record.spec.mode with
      | clone spec =>
        rw [if_pos (DatabaseSpec.isClone_of_clone mode)] at runs
        obtain rfl := runs_call.mp runs
        exact .clone empty mode
      | fresh spec =>
        rw [if_neg (Bool.eq_false_iff.mp (DatabaseSpec.isClone_of_fresh mode))] at runs
        obtain rfl := runs_call.mp runs
        exact .fresh empty mode
  · intro viewing
    cases viewing with
    | unassigned empty =>
      rw [if_pos (emptiness.mpr empty)]
      exact .done _
    | clone assigned mode =>
      rw [if_neg (mt emptiness.mp assigned), if_pos (DatabaseSpec.isClone_of_clone mode)]
      exact runs_call.mpr rfl
    | fresh assigned mode =>
      rw [if_neg (mt emptiness.mp assigned),
        if_neg (Bool.eq_false_iff.mp (DatabaseSpec.isClone_of_fresh mode))]
      exact runs_call.mpr rfl

/-- The records are resolved first, and then the control plane is asked. -/
theorem runs_resolveStatus {ended : Except Error ManagedDatabase}
    (registered : bundle.place? .server = some registration)
    (placed : bundle.place? .database = some home)
    (runs : (resolveStatus bundle).Runs exchanges ended) :
    StatusResolution registration home exchanges ended := by
  unfold resolveStatus at runs
  obtain ⟨_, resolved, _, rfl, resolving, looking⟩ := Program.runs_bind.mp runs
  obtain ⟨calls, connecting, rfl⟩ := runs_resolve registered placed resolving
  cases resolved with
  | error error =>
    -- Its failure was logged, and nothing is looked up.
    obtain ⟨rfl, rfl⟩ := Program.runs_pure.mp looking
    rw [List.append_nil]
    exact .unconnected connecting
  | ok record =>
    obtain ⟨lookups, viewing, rfl⟩ := runs_bind_logged.mp looking
    have connected := StatusResolution.connected connecting (runs_statusLookup.mp viewing)
    simpa only [failureLog, failure?, List.append_nil, List.append_assoc] using connected

end Workflow

namespace StatusResolution

variable {registration home : RecordKey} {exchanges : Exchanges}
  {ended : Except Error ManagedDatabase}

/-- The requests are the first of five, each made with what the ones before it fetched. A server and a
record stand for what was not fetched any more. -/
theorem requests_prefix (resolution : StatusResolution registration home exchanges ended)
    (server : Server) (record : Database) :
    ∃ (fetched : Server) (credentials : Credentials) (found : Database),
      exchanges.requests.map (·.call) <+: [
        .fetch .server registration.namespaceName registration.name,
        .fetch .database home.namespaceName home.name,
        .fetch .secret registration.namespaceName fetched.spec.credentialSecret,
        .connect credentials,
        .lookup (if found.spec.isClone then .clone found.controlPlaneId
          else .database found.controlPlaneId)] := by
  cases resolution with
  | unconnected connecting =>
    cases connecting with
    | unregistered => exact ⟨server, default, record, _, rfl⟩
    | unfound => exact ⟨server, default, record, _, rfl⟩
    | @unkeyed fetched found => exact ⟨fetched, default, found, _, rfl⟩
    | @incomplete fetched found => exact ⟨fetched, default, found, _, rfl⟩
    | @refused fetched found _ credentials => exact ⟨fetched, credentials, found, _, rfl⟩
  | @connected _ _ found _ connecting viewing =>
    cases connecting with
    | @connected fetched _ _ credentials =>
      refine ⟨fetched, credentials, found, ?_⟩
      rw [Exchanges.requests_append, Exchanges.requests_append, Exchanges.requests_failureLog,
        List.append_nil]
      cases viewing with
      | unassigned => exact ⟨_, rfl⟩
      | clone _ mode =>
        rw [DatabaseSpec.isClone_of_clone mode]
        exact ⟨[], rfl⟩
      | fresh _ mode =>
        rw [DatabaseSpec.isClone_of_fresh mode]
        exact ⟨[], rfl⟩

/-- Only the last request may have failed. -/
theorem failure?_of_request (resolution : StatusResolution registration home exchanges ended) :
    ∀ exchange ∈ exchanges.requests.dropLast, exchange.failure? = none := by
  cases resolution with
  | unconnected connecting =>
    rw [Exchanges.requests_append]
    cases connecting <;>
      simp [Exchanges.requests, Call.isRequest, Exchange.failure?, DatabaseLifecycle.failure?]
  | connected connecting viewing =>
    rw [Exchanges.requests_append, Exchanges.requests_append, Exchanges.requests_failureLog]
    cases connecting with
    | connected =>
      cases viewing <;>
        simp [Exchanges.requests, Call.isRequest, Exchange.failure?, DatabaseLifecycle.failure?]

end StatusResolution

/-- The database of a bundle is taken to lie in the namespace of the bundle. -/
theorem Bundle.place?_of_database {bundle : Bundle} {database : Database}
    (present : bundle.database = some database) :
    bundle.place? .database = some ⟨bundle.namespaceName, database.metadata.effectiveName⟩ := by
  have own : bundle.namespaceName = database.metadata.namespaceOr defaultNamespace := by
    rw [namespaceName, present]
    rfl
  rw [place?_database, metadata?, record?, present, own]
  rfl

namespace Workflow

/-- Whatever the cluster and the control plane reply, the view of a database is come by in five requests
at most: its server registration, the database, the secret that the fetched registration names, the
connection with the credentials that those two make, and the lookup that the fetched database asks for.
The first that fails is the last one, and its failure is handed on, that of the secret as one of the
credentials. -/
theorem resolveStatus_asks_in_turn {σ : Type} (handle : Program.Handler Call.interface σ) (state : σ)
    (bundle : Bundle) {server : Server} {database : Database}
    (registered : bundle.server = some server) (present : bundle.database = some database) :
    let registration : RecordKey :=
      ⟨(server.metadata.namespaceName.filter (· ≠ "")).getD bundle.namespaceName,
        server.metadata.effectiveName⟩
    let home : RecordKey := ⟨bundle.namespaceName, database.metadata.effectiveName⟩
    let exchanges : Exchanges := (resolveStatus bundle).transcript handle state
    StatusResolution registration home exchanges ((resolveStatus bundle).run handle state).1
      ∧ (∃ (fetched : Server) (credentials : Credentials) (found : Database),
        exchanges.requests.map (·.call) <+: [
          .fetch .server registration.namespaceName registration.name,
          .fetch .database home.namespaceName home.name,
          .fetch .secret registration.namespaceName fetched.spec.credentialSecret,
          .connect credentials,
          .lookup (if found.spec.isClone then .clone found.controlPlaneId
            else .database found.controlPlaneId)])
      ∧ (∀ exchange ∈ exchanges.requests.dropLast, exchange.failure? = none)
      ∧ ∀ (fetched : Server) (secret : Secret), credentialsOf fetched secret =
        if secret.given "username" = "" then
          .error (.invalidCredential fetched.spec.credentialSecret "'username' is missing or empty")
        else if secret.given "password" = "" then
          .error (.invalidCredential fetched.spec.credentialSecret "'password' is missing or empty")
        else .ok {
          endpoint := fetched.spec.server
          username := secret.given "username"
          password := secret.given "password"
          tenant := fetched.spec.tenant.filter (· ≠ "")
          insecure := fetched.spec.skipCertificateVerification } := by
  have here := Bundle.place?_of_record (show Step.server ≠ .service by decide) registered
  rw [Metadata.namespaceOr_eq] at here
  have runs := Program.runs_transcript handle (resolveStatus bundle) state
  have resolution := runs_resolveStatus here (Bundle.place?_of_database present) runs
  exact ⟨resolution, resolution.requests_prefix server database, resolution.failure?_of_request,
    credentialsOf_eq⟩

/-- A cluster in which the registration of the control plane lies apart from the database, and the
database is a clone by now. -/
def clonedRehearsal : Rehearsal where
  records := ((RecordMap.empty.insert .server ⟨"cp-system", "cp"⟩ {
      metadata := { name := some "cp" }
      spec := { server := "https://cp.local", credentialSecret := "cp-creds", tenant := some "" } }
    ).insert .secret ⟨"cp-system", "cp-creds"⟩ {
      stringData := some (.ofList [("username", "admin"), ("password", "pw")]) }
    ).insert .database ⟨"shop", "orders"⟩ {
      metadata := { name := some "orders" }
      spec := ⟨"cp", .clone { name := "orders", credentialSecret := "orders-db", type := "postgres" }⟩
      status := some { id := "db-7" } }
  lookupCues := [("get_clone_by_id", [.fail (.controlPlane "get_clone_by_id" (some 503) "busy")])]

/-- The database that was asked for as an instance is looked up as the clone that it is, under the
identifier that it has. -/
theorem resolveStatus_asks_for_clone :
    let exchanges : Exchanges :=
      (resolveStatus (registeredBundle "cp-system")).transcript Rehearsal.answer clonedRehearsal
    StatusResolution ⟨"cp-system", "cp"⟩ ⟨"shop", "orders"⟩ exchanges
        (.error (.controlPlane "get_clone_by_id" (some 503) "busy"))
      ∧ exchanges.requests.getLast?.map (·.call) = some (.lookup (.clone "db-7")) := by
  obtain ⟨resolution, _⟩ := resolveStatus_asks_in_turn Rehearsal.answer clonedRehearsal
    (registeredBundle "cp-system") rfl rfl
  exact ⟨resolution, rfl⟩

end Workflow

end DatabaseLifecycle

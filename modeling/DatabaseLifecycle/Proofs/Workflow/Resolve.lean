import DatabaseLifecycle.Proofs.Workflow.Placement
import DatabaseLifecycle.Workflow.Resolve

/-!
Resolution step by step: the server registration, the database and the secret are fetched in turn, and
the credentials that they make are connected with; the first failure ends it.
-/

namespace DatabaseLifecycle

/-- How the resolution of a database ends when its server registration and the database itself are
looked for at these places, and the exchanges that it has made. -/
inductive Connecting (registration home : RecordKey) : Exchanges → Except Error Database → Prop where
  | unregistered {error : Error} :
      Connecting registration home
        [⟨.fetch .server registration.namespaceName registration.name, .error error⟩]
        (.error error)
  | unfound {server : Server} {error : Error} :
      Connecting registration home
        [⟨.fetch .server registration.namespaceName registration.name, .ok server⟩,
          ⟨.fetch .database home.namespaceName home.name, .error error⟩]
        (.error error)
  | unkeyed {server : Server} {database : Database} {error : Error} :
      Connecting registration home
        [⟨.fetch .server registration.namespaceName registration.name, .ok server⟩,
          ⟨.fetch .database home.namespaceName home.name, .ok database⟩,
          ⟨.fetch .secret registration.namespaceName server.spec.credentialSecret, .error error⟩]
        (.error (.invalidCredential server.spec.credentialSecret error.message))
  | incomplete {server : Server} {database : Database} {secret : Secret} {error : Error}
      (made : Workflow.credentialsOf server secret = .error error) :
      Connecting registration home
        [⟨.fetch .server registration.namespaceName registration.name, .ok server⟩,
          ⟨.fetch .database home.namespaceName home.name, .ok database⟩,
          ⟨.fetch .secret registration.namespaceName server.spec.credentialSecret, .ok secret⟩]
        (.error error)
  | refused {server : Server} {database : Database} {secret : Secret} {credentials : Credentials}
      {error : Error} (made : Workflow.credentialsOf server secret = .ok credentials) :
      Connecting registration home
        [⟨.fetch .server registration.namespaceName registration.name, .ok server⟩,
          ⟨.fetch .database home.namespaceName home.name, .ok database⟩,
          ⟨.fetch .secret registration.namespaceName server.spec.credentialSecret, .ok secret⟩,
          ⟨.connect credentials, .error error⟩]
        (.error error)
  | connected {server : Server} {database : Database} {secret : Secret} {credentials : Credentials}
      (made : Workflow.credentialsOf server secret = .ok credentials) :
      Connecting registration home
        [⟨.fetch .server registration.namespaceName registration.name, .ok server⟩,
          ⟨.fetch .database home.namespaceName home.name, .ok database⟩,
          ⟨.fetch .secret registration.namespaceName server.spec.credentialSecret, .ok secret⟩,
          ⟨.connect credentials, .ok ()⟩]
        (.ok database)

/-- The credentials that a run connects with. -/
def Exchanges.connections (exchanges : Exchanges) : List Credentials :=
  exchanges.filterMap fun exchange =>
    match exchange.call with
    | .connect credentials => some credentials
    | _ => none

/-- Connections of two runs in a row are in a row. -/
theorem Exchanges.connections_append (earlier later : Exchanges) :
    connections (earlier ++ later) = connections earlier ++ connections later :=
  List.filterMap_append

/-- Nothing is connected with while a line is logged. -/
theorem Workflow.connections_failureLog {α : Type} (operation : String) (result : Except Error α) :
    Exchanges.connections (failureLog operation result) = [] := by
  cases result <;> rfl

/-- Resolution deletes nothing. -/
theorem Connecting.not_deletes {registration home : RecordKey} {exchanges : Exchanges}
    {ended : Except Error Database} (connecting : Connecting registration home exchanges ended)
    (kind : Kind) (key : RecordKey) : ∀ exchange ∈ exchanges, ¬ exchange.call.Deletes kind key := by
  -- However it ends, all exchanges are fetches or the attempt to connect.
  cases connecting <;> simp [Call.Deletes]

/-- Only the specification of a server registration counts for the credentials. -/
theorem Workflow.credentialsOf_congr {first second : Server} (same : first.spec = second.spec)
    (secret : Secret) : credentialsOf first secret = credentialsOf second secret := by
  rw [credentialsOf, credentialsOf, same]

/-- A resolution that finds all three records connects once, with the credentials that they make. -/
theorem Connecting.connections_eq {registration home : RecordKey} {exchanges : Exchanges}
    {ended : Except Error Database} {server : Server} {secret : Secret} {credentials : Credentials}
    (connecting : Connecting registration home exchanges ended)
    (registered : ∀ reply,
      ⟨.fetch .server registration.namespaceName registration.name, reply⟩ ∈ exchanges →
        ∃ current, reply = .ok current ∧ current.spec = server.spec)
    (found : ∀ error,
      ⟨.fetch .database home.namespaceName home.name, .error error⟩ ∉ exchanges)
    (unlocked : ∀ reply,
      ⟨.fetch .secret registration.namespaceName server.spec.credentialSecret, reply⟩ ∈ exchanges →
        reply = .ok secret)
    (made : Workflow.credentialsOf server secret = .ok credentials) :
    exchanges.connections = [credentials] := by
  -- The registration that is fetched names the secret that the known one names.
  have keyed {current : Server} {reply : Except Error Secret}
      (fetched : ⟨.fetch .server registration.namespaceName registration.name, .ok current⟩
        ∈ exchanges)
      (listed : ⟨.fetch .secret registration.namespaceName current.spec.credentialSecret, reply⟩
        ∈ exchanges) :
      reply = .ok secret ∧ Workflow.credentialsOf current secret = .ok credentials := by
    obtain ⟨other, same, kept⟩ := registered _ fetched
    obtain rfl := Except.ok.inj same
    rw [kept] at listed
    exact ⟨unlocked _ listed, (Workflow.credentialsOf_congr kept secret).trans made⟩
  have third {first second last : Exchange Call.interface} {rest : Exchanges} :
      last ∈ first :: second :: last :: rest :=
    List.mem_cons_of_mem _ (List.mem_cons_of_mem _ List.mem_cons_self)
  cases connecting with
  | unregistered =>
    obtain ⟨_, failed, _⟩ := registered _ List.mem_cons_self
    cases failed
  | unfound => exact absurd (List.mem_cons_of_mem _ List.mem_cons_self) (found _)
  | unkeyed =>
    obtain ⟨failed, _⟩ := keyed List.mem_cons_self third
    cases failed
  | incomplete failed =>
    -- The two records that were fetched do make credentials.
    obtain ⟨same, made⟩ := keyed List.mem_cons_self third
    rw [Except.ok.inj same, made] at failed
    cases failed
  | refused other =>
    -- Whatever the control plane replies, it was connected with these credentials.
    obtain ⟨same, made⟩ := keyed List.mem_cons_self third
    rw [Except.ok.inj same, made] at other
    obtain rfl := Except.ok.inj other
    rfl
  | connected other =>
    obtain ⟨same, made⟩ := keyed List.mem_cons_self third
    rw [Except.ok.inj same, made] at other
    obtain rfl := Except.ok.inj other
    rfl

namespace Bundle

variable {bundle : Bundle} {registration home : RecordKey}

/-- A place for a server registration is that of one. -/
theorem server_of_place (registered : bundle.place? .server = some registration) :
    ∃ server, bundle.server = some server
      ∧ server.metadata.namespaceOr bundle.namespaceName = registration.namespaceName
      ∧ server.metadata.effectiveName = registration.name := by
  obtain ⟨_, described, rfl⟩ := Option.map_eq_some_iff.mp registered
  obtain ⟨server, present, rfl⟩ := Option.map_eq_some_iff.mp described
  exact ⟨server, present, rfl, rfl⟩

/-- A place for a database is that of one, and it is in the namespace of the bundle. -/
theorem database_of_place (placed : bundle.place? .database = some home) :
    ∃ database, bundle.database = some database ∧ bundle.namespaceName = home.namespaceName
      ∧ database.metadata.effectiveName = home.name := by
  have target : bundle.namespaceName = home.namespaceName := by
    rw [bundle.namespaceName_of_place, placed]
    rfl
  obtain ⟨_, described, rfl⟩ := Option.map_eq_some_iff.mp placed
  obtain ⟨database, present, rfl⟩ := Option.map_eq_some_iff.mp described
  exact ⟨database, present, target, rfl⟩

end Bundle

namespace Workflow

variable {bundle : Bundle} {exchanges : Exchanges} {registration home : RecordKey}

/-- Going on after a fetch is an exchange followed by what its reply leads to. -/
theorem runs_fetch_bind {α : Type} {kind : Kind} {namespaceName name : String}
    {next : Except Error kind.Record → Workflow α} {ended : α} {exchanges : Exchanges} :
    (fetch kind namespaceName name >>= next).Runs exchanges ended ↔
      ∃ (reply : Except Error kind.Record) (rest : Exchanges),
        exchanges = ⟨.fetch kind namespaceName name, reply⟩ :: rest
          ∧ (next reply).Runs rest ended :=
  runs_call_bind

/-- A secret is fetched with one exchange, and a failure is blamed on it. -/
theorem runs_blamed {secret namespaceName : String} {ended : Except Error Secret} :
    (ExceptT.mk (do return blameSecret secret (← fetch .secret namespaceName secret)) :
        ExceptT Error Workflow Secret).run.Runs exchanges ended ↔
      ∃ reply : Except Error Secret, exchanges = [⟨.fetch .secret namespaceName secret, reply⟩]
        ∧ ended = blameSecret secret reply := by
  rw [ExceptT.run_mk, runs_fetch_bind]
  -- Blaming changes the reply after the exchange and makes none of its own.
  constructor
  · rintro ⟨reply, _, rfl, runs⟩
    obtain ⟨rfl, rfl⟩ := Program.runs_pure.mp runs
    exact ⟨reply, rfl, rfl⟩
  · rintro ⟨reply, rfl, rfl⟩
    exact ⟨reply, [], rfl, Program.runs_pure.mpr ⟨rfl, rfl⟩⟩

/-- The server registration and the database are looked for at their places in the bundle. -/
theorem runs_connectRecords {ended : Except Error Database}
    (registered : bundle.place? .server = some registration)
    (placed : bundle.place? .database = some home)
    (runs : (connectRecords bundle).run.Runs exchanges ended) :
    Connecting registration home exchanges ended := by
  obtain ⟨server, present, serverNamespace, serverName⟩ := Bundle.server_of_place registered
  obtain ⟨database, there, namespaceName, name⟩ := Bundle.database_of_place placed
  unfold connectRecords at runs
  simp only [present, there] at runs
  rw [serverNamespace, serverName, namespaceName, name] at runs
  rw [Program.runs_run_bind] at runs
  rcases runs with ⟨error, fetching, rfl⟩ | ⟨_, current, _, rfl, fetching, runs⟩
  · obtain rfl := runs_call.mp fetching
    exact .unregistered
  · obtain rfl := runs_call.mp fetching
    rw [Program.runs_run_bind] at runs
    rcases runs with ⟨error, finding, rfl⟩ | ⟨_, record, _, rfl, finding, runs⟩
    · obtain rfl := runs_call.mp finding
      exact .unfound
    · obtain rfl := runs_call.mp finding
      -- The secret is looked for next to the registration, under the name that this gives it.
      rw [Program.runs_run_bind] at runs
      rcases runs with ⟨error, unlocking, rfl⟩ | ⟨_, secret, _, rfl, unlocking, runs⟩
      · obtain ⟨reply, rfl, blamed⟩ := runs_blamed.mp unlocking
        cases reply with
        | ok secret => cases blamed
        | error cause =>
          obtain rfl := Except.error.inj blamed
          exact .unkeyed
      · obtain ⟨reply, rfl, blamed⟩ := runs_blamed.mp unlocking
        cases reply with
        | error cause => cases blamed
        | ok found =>
          obtain rfl : secret = found := Except.ok.inj blamed
          rw [Program.runs_run_bind] at runs
          rcases runs with ⟨error, making, rfl⟩ | ⟨_, credentials, _, rfl, making, runs⟩
          · obtain ⟨rfl, made⟩ := Program.runs_pure.mp making
            exact .incomplete made.symm
          · obtain ⟨rfl, made⟩ := Program.runs_pure.mp making
            rw [Program.runs_run_bind] at runs
            rcases runs with ⟨error, connecting, rfl⟩ | ⟨_, _, _, rfl, connecting, runs⟩
            · obtain rfl := runs_call.mp connecting
              exact .refused made.symm
            · obtain rfl := runs_call.mp connecting
              obtain ⟨rfl, rfl⟩ := Program.runs_pure.mp runs
              exact .connected made.symm

/-- Whatever way there is for a resolution to end, it can end that way. -/
theorem runs_of_connecting {ended : Except Error Database}
    (registered : bundle.place? .server = some registration)
    (placed : bundle.place? .database = some home)
    (connecting : Connecting registration home exchanges ended) :
    (connectRecords bundle).run.Runs exchanges ended := by
  obtain ⟨server, present, serverNamespace, serverName⟩ := Bundle.server_of_place registered
  obtain ⟨database, there, namespaceName, name⟩ := Bundle.database_of_place placed
  unfold connectRecords
  simp only [present, there]
  rw [serverNamespace, serverName, namespaceName, name]
  cases connecting with
  | unregistered => exact .ask (.done _)
  | unfound => exact .ask (.ask (.done _))
  | unkeyed => exact .ask (.ask (.ask (.done _)))
  | @incomplete _ _ _ _ made =>
    refine .ask (.ask (.ask ?_))
    show (ofResult _ >>= _).run.Runs _ _
    rw [made]
    exact .done _
  | @refused _ _ _ _ _ made =>
    refine .ask (.ask (.ask ?_))
    show (ofResult _ >>= _).run.Runs _ _
    rw [made]
    exact .ask (.done _)
  | @connected _ _ _ _ made =>
    refine .ask (.ask (.ask ?_))
    show (ofResult _ >>= _).run.Runs _ _
    rw [made]
    exact .ask (.done _)

/-- Resolution makes its calls, and its failure is logged. -/
theorem runs_resolve {ended : Except Error Database}
    (registered : bundle.place? .server = some registration)
    (placed : bundle.place? .database = some home) (runs : (resolve bundle).Runs exchanges ended) :
    ∃ calls, Connecting registration home calls ended
      ∧ exchanges = calls ++ failureLog "resolve" ended := by
  obtain ⟨calls, connecting, rfl⟩ := runs_bind_logged.mp runs
  exact ⟨calls, runs_connectRecords registered placed connecting, rfl⟩

/-- Resolution deletes nothing, and neither does the line of its failure. -/
theorem resolve_not_deletes {ended : Except Error Database}
    (registered : bundle.place? .server = some registration)
    (placed : bundle.place? .database = some home) (runs : (resolve bundle).Runs exchanges ended)
    (kind : Kind) (key : RecordKey) : ∀ exchange ∈ exchanges, ¬ exchange.call.Deletes kind key := by
  intro exchange listed deletes
  obtain ⟨calls, connecting, rfl⟩ := runs_resolve registered placed runs
  rcases List.mem_append.mp listed with called | logged
  · exact connecting.not_deletes kind key exchange called deletes
  · -- A line of a failure is no call to the cluster, let alone a deletion.
    have seen := Exchanges.mem_ofStore logged deletes.isStoreCall
    rw [ofStore_failureLog] at seen
    cases seen

end Workflow

end DatabaseLifecycle

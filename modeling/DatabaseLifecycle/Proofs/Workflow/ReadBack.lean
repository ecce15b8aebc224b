import DatabaseLifecycle.Proofs.Resource.Secret
import DatabaseLifecycle.Proofs.Store.Showing
import DatabaseLifecycle.Proofs.Workflow.Prepared
import DatabaseLifecycle.Proofs.Workflow.Resolve

/-!
What provisioning writes, resolution reads back: with the secret next to the server registration, the
control plane is connected with the values of the environment.
-/

namespace DatabaseLifecycle

/-- A captured value is that of its variable, and it is not empty. -/
theorem Environment.captured_eq_some {setting : String → Option String} {name text : String}
    (captured : (setting name).filter (!·.isEmpty) = some text) :
    setting name = some text ∧ text ≠ "" := by
  obtain ⟨found, kept⟩ := Option.filter_eq_some_iff.mp captured
  have named : text ≠ "" := by simpa [String.isEmpty_iff] using kept
  exact ⟨found, named⟩

/-- A value of a secret that is not empty is found. -/
theorem Credentials.value_eq_ok {secret key text : String} {values : Table String}
    (found : values.find? key = some text) (named : text ≠ "") :
    value secret values key = .ok text := by
  have kept : (some text).filter (!·.isEmpty) = some text := by simp [Option.filter, named]
  rw [value, found, kept]

namespace Workflow

/-- The credentials that a server registration and a secret make when the secret has both values. -/
theorem credentialsOf_eq_ok (server : Server) {secret : Secret} {username password : String}
    (user : secret.values.find? Credentials.usernameKey = some username) (named : username ≠ "")
    (pass : secret.values.find? Credentials.passwordKey = some password) (locked : password ≠ "") :
    credentialsOf server secret = .ok {
      endpoint := server.spec.server
      username, password
      tenant := server.spec.tenant.filter (!·.isEmpty)
      insecure := server.spec.skipCertificateVerification } := by
  -- The username is looked for first; tenant and verification come from the registration.
  rw [credentialsOf, Credentials.ofSecret, Credentials.value_eq_ok user named,
    Credentials.value_eq_ok pass locked]
  rfl

/-- Where the registration, the database and the secret next to the registration lie in a cluster that
shows its records, resolution connects once, with the credentials that they make. -/
theorem resolve_connects {σ : Type} {handle : Program.Handler Call.interface σ}
    {records : σ → RecordMap} (shown : RecordMap.ShownBy handle records) (state : σ) {bundle : Bundle}
    {registration home : RecordKey} (registered : bundle.place? .server = some registration)
    (placed : bundle.place? .database = some home) {server : Server} {database : Database}
    {secret : Secret} {credentials : Credentials}
    (serverTaken : (records state).view .server registration = some server)
    (databaseTaken : (records state).view .database home = some database)
    (secretTaken : (records state).view .secret
      (.of registration.namespaceName server.spec.credentialSecret) = some secret)
    (made : credentialsOf server secret = .ok credentials) :
    Exchanges.connections ((resolve bundle).transcript handle state) = [credentials] := by
  have runs := Program.runs_transcript handle (resolve bundle) state
  have undeleted := resolve_not_deletes registered placed runs
  obtain ⟨calls, connecting, exchanged⟩ := runs_resolve registered placed runs
  -- Each of the three fetches finds what lies at its place, since nothing is deleted.
  have reading {kind : Kind} {namespaceName name : String} {record : kind.Record}
      {reply : Except Error kind.Record}
      (taken : (records state).view kind (.of namespaceName name) = some record)
      (listed : ⟨.fetch kind namespaceName name, reply⟩ ∈ calls) :
      ∃ fetched, reply = .ok fetched ∧ kind.withoutStatus fetched = record := by
    apply shown.reply_of_fetch (resolve bundle) state (undeleted kind _) taken
    rw [exchanged]
    exact List.mem_append_left _ listed
  rw [exchanged, Exchanges.connections_append, connections_failureLog, List.append_nil]
  rw [← Bundle.of_place registered] at serverTaken
  rw [← Bundle.of_place placed] at databaseTaken
  apply connecting.connections_eq ?server ?database ?secret made
  case server =>
    intro reply listed
    obtain ⟨current, fetched, same⟩ := reading serverTaken listed
    have kept := congrArg Server.spec same
    exact ⟨current, fetched, kept⟩
  case database =>
    intro error listed
    obtain ⟨_, failed, _⟩ := reading databaseTaken listed
    cases failed
  case secret =>
    intro reply listed
    obtain ⟨current, fetched, same⟩ := reading secretTaken listed
    have whole : current = secret := same
    rw [fetched, whole]

end Workflow

section Reading

variable {environment : Environment}

/-- A filled secret has the username and the password of the environment, and its own values under
all other keys. -/
theorem Bundle.find?_values_filledServerSecret (environment : Environment) (target : String)
    (secret : Secret) (key : String) :
    (filledServerSecret environment target secret).values.find? key =
      if key = Credentials.passwordKey then some (environment.controlPlanePassword.getD "")
      else if key = Credentials.usernameKey then some (environment.controlPlaneUsername.getD "")
      else secret.values.find? key := by
  rw [filledServerSecret, Secret.find?_values_inject]
  simp only [List.reverse_cons, List.reverse_nil, List.nil_append, List.cons_append, List.lookup_cons,
    List.lookup_nil]
  by_cases password : key = Credentials.passwordKey
  · rw [if_pos password, beq_iff_eq.mpr password]
    rfl
  · rw [if_neg password, beq_eq_false_iff_ne.mpr password]
    by_cases username : key = Credentials.usernameKey
    · rw [if_pos username, beq_iff_eq.mpr username]
      rfl
    · rw [if_neg username, beq_eq_false_iff_ne.mpr username]
      rfl

/-- The steps whose records make the credentials for the control plane of a database. -/
def Step.connecting : List Step := [serverSecret, server, database]

variable {timings : Timings} {bundle prepared target : Bundle} {replies : ProvisionReplies}
  {start last : RecordMap} (ready : bundle.prepare environment = (.ok (), prepared))
  (serves : start.Serves (replies.exchanges timings prepared) last)
  (completed : ∀ step ∈ Step.connecting, replies.outcome timings prepared step = .completed)
  (known : target = bundle ∨ target = replies.left prepared)

include ready serves completed known

/-- The registration and the database are looked for where the given bundle has them. -/
theorem ProvisionReplies.connecting_place? {step : Step} (other : step = .server ∨ step = .database) :
    target.place? step = bundle.place? step := by
  rcases known with rfl | rfl
  · rfl
  · -- Of the bundle that is left only the database may have been replaced, and it keeps its key.
    have kept := left_database_key_of_completed serves (completed .database (by decide))
    rcases other with rfl | rfl
    · exact left_place?_of_database ready kept (by decide) (by decide)
    · exact left_place?_of_database ready kept (by decide) (by decide)

/-- Records of a completed run make the credentials that their bundle was filled with. -/
theorem Workflow.resolve_connects_filled {σ : Type} {handle : Program.Handler Call.interface σ}
    {records : σ → RecordMap} (shown : RecordMap.ShownBy handle records) {state : σ}
    (reached : records state = last) {server : Server} {secret : Secret} {credentials : Credentials}
    (registered : bundle.server = some server) (locked : bundle.serverSecret = some secret)
    (named : server.spec.credentialSecret = secret.metadata.effectiveName)
    (beside : secret.metadata.namespaceOr bundle.namespaceName
      = server.metadata.namespaceOr bundle.namespaceName)
    (made : credentialsOf (Bundle.filledServer environment bundle.namespaceName server)
      (Bundle.filledServerSecret environment bundle.namespaceName secret) = .ok credentials) :
    Exchanges.connections ((resolve target).transcript handle state) = [credentials] := by
  obtain rfl := (Bundle.prepare_eq_filled ready).2
  subst reached
  -- Each of the three records lies at the place that the given bundle has for it.
  have taken {step : Step} (among : step ∈ Step.connecting) {place : RecordKey}
      {record : step.kind.Record} (here : bundle.place? step = some place)
      (found : (bundle.filled environment).record? step = some record) :
      (records state).view step.kind place = some (step.kind.withoutStatus record) := by
    have submissions : ∀ step ∈ Step.connecting, step ∈ Step.submissions := by decide
    exact ProvisionReplies.view_at_place ready serves (submissions step among)
      (completed step among) here found
  have serverHere := Bundle.place?_of_record (show Step.server ≠ .service by decide) registered
  have secretHere := Bundle.place?_of_record (show Step.serverSecret ≠ .service by decide) locked
  have serverFilled : (bundle.filled environment).record? .server
      = some (Bundle.filledServer environment bundle.namespaceName server) :=
    congrArg (Option.map (Bundle.filledServer environment bundle.namespaceName)) registered
  have secretFilled : (bundle.filled environment).record? .serverSecret
      = some (Bundle.filledServerSecret environment bundle.namespaceName secret) :=
    congrArg (Option.map (Bundle.filledServerSecret environment bundle.namespaceName)) locked
  have serverTaken := taken (by decide) serverHere serverFilled
  have secretTaken := taken (by decide) secretHere secretFilled
  -- A completed step is not skipped, so there is a database.
  have present : (bundle.filled environment).record? .database ≠ none := by
    intro absent
    have skipped := (replies.outcome_eq_skipped timings _).mpr absent
    rw [completed .database (by decide)] at skipped
    cases skipped
  obtain ⟨database, databaseFilled⟩ := Option.ne_none_iff_exists'.mp present
  have databaseHere := Bundle.key_of_prepared ready .database (by decide) database databaseFilled
  have databaseTaken := taken (by decide) databaseHere databaseFilled
  -- The secret lies where resolution looks for it: next to the registration.
  have next : RecordKey.of (server.metadata.namespaceOr bundle.namespaceName)
        server.spec.credentialSecret
      = ⟨secret.metadata.namespaceOr bundle.namespaceName, secret.metadata.effectiveName⟩ := by
    rw [named, ← beside]
    exact Bundle.of_place secretHere
  rw [← ProvisionReplies.connecting_place? ready serves completed known (Or.inl rfl)] at serverHere
  rw [← ProvisionReplies.connecting_place? ready serves completed known (Or.inr rfl)] at databaseHere
  refine resolve_connects shown state serverHere databaseHere serverTaken databaseTaken ?_ made
  exact (congrArg _ next).trans secretTaken

end Reading

namespace Workflow

/-- What provisioning has submitted is read back: with the secret in the namespace of the server
registration that names it, resolution connects with the values of the environment, whether it works on
the bundle as it was given or on the one that provisioning left. -/
theorem resolve_connects_as_provisioned {σ : Type} {handle : Program.Handler Call.interface σ}
    {records : σ → RecordMap} (shown : RecordMap.ShownBy handle records) (state : σ)
    (setting : String → Option String) (timings : Timings) {bundle left : Bundle} {server : Server}
    {secret : Secret} {report : Report} {provisioned : σ} (registered : bundle.server = some server)
    (locked : bundle.serverSecret = some secret)
    (named : server.spec.credentialSecret = secret.metadata.effectiveName)
    (beside : secret.metadata.namespaceOr bundle.namespaceName
      = server.metadata.namespaceOr bundle.namespaceName)
    (ran : (provision (.ofLookup setting) timings bundle).run handle state
      = ((.ok report, left), provisioned))
    (completed : ∀ step ∈ Step.connecting, report.status? step = some .completed)
    (target : Bundle) (known : target = bundle ∨ target = left) :
    ∃ endpoint username password : String,
      setting Environment.endpointVariable = some endpoint
      ∧ setting Environment.usernameVariable = some username
      ∧ setting Environment.passwordVariable = some password
      ∧ Exchanges.connections ((resolve target).transcript handle provisioned) = [{
          endpoint, username, password
          tenant := server.spec.tenant.filter (!·.isEmpty)
          insecure := server.spec.skipCertificateVerification }] := by
  -- A run that came to a report submitted its records, and the map answered each of its calls.
  have runs := runs_provision (Program.runs_transcript handle
    (provision (.ofLookup setting) timings bundle) state)
  have serves := RecordMap.serves_transcript shown.keptBy
    (provision (.ofLookup setting) timings bundle) state
  rw [ran] at runs serves
  generalize (provision (.ofLookup setting) timings bundle).transcript handle state = exchanges
    at runs serves
  cases runs with
  | @submitted prepared replies present ready fits =>
    -- Preparation succeeded, so all three variables were set; a captured value is not empty.
    obtain ⟨endpoint, username, password, reached, user, pass⟩ :=
      Bundle.variables_of_prepared ready (by simp [registered]) (by simp [locked])
    obtain ⟨endpointSet, _⟩ := Environment.captured_eq_some reached
    obtain ⟨usernameSet, usernameNamed⟩ := Environment.captured_eq_some user
    obtain ⟨passwordSet, passwordNamed⟩ := Environment.captured_eq_some pass
    refine ⟨endpoint, username, password, endpointSet, usernameSet, passwordSet, ?_⟩
    have outcome : ∀ step ∈ Step.connecting,
        replies.outcome timings prepared step = .completed := by
      intro step among
      have provisioning : ∀ step ∈ Step.connecting, step ∈ Step.provisioning := by decide
      have noted := completed step among
      rwa [replies.status?_report timings prepared (provisioning step among), Option.some_inj]
        at noted
    -- The secret that was submitted has the values of the environment.
    have values := Bundle.find?_values_filledServerSecret (.ofLookup setting) bundle.namespaceName
      secret
    have userFound := values Credentials.usernameKey
    have passFound := values Credentials.passwordKey
    rw [if_neg (by decide), if_pos rfl, user] at userFound
    rw [if_pos rfl, pass] at passFound
    have made := credentialsOf_eq_ok
      (Bundle.filledServer (.ofLookup setting) bundle.namespaceName server) userFound usernameNamed
      passFound passwordNamed
    have connects := resolve_connects_filled ready serves outcome known shown rfl registered locked
      named beside made
    rw [connects]
    simp [Bundle.filledServer, reached]

/-- An environment with all that is needed for a control plane. -/
def planeSetting (name : String) : Option String :=
  [("CONTROL_PLANE_SERVER", "https://cp.local"), ("CONTROL_PLANE_USERNAME", "admin"),
    ("CONTROL_PLANE_PASSWORD", "pw")].lookup name

/-- A ready database whose server registration lies in a namespace of its own, with the secret that it
names in this one. -/
def registeredBundle (secretNamespace : String) : Bundle where
  serverSecret := some {
    metadata := { name := some "cp-creds", namespaceName := some secretNamespace } }
  server := some {
    metadata := { name := some "cp", namespaceName := some "cp-system" }
    spec := { credentialSecret := "cp-creds" } }
  database := some {
    metadata := { name := some "orders", namespaceName := some "shop" }
    spec := ⟨"cp", .fresh { name := "orders", credentialSecret := "orders-db", type := "postgres" }⟩
    status := some { status := Database.readyStatus } }

/-- With the secret beside the registration, the control plane of that database is connected. -/
theorem resolve_connects_registered :
    Exchanges.connections ((resolve (registeredBundle "cp-system")).transcript Rehearsal.plain
        ((provision (.ofLookup planeSetting) {} (registeredBundle "cp-system")).run Rehearsal.plain
          .empty).2)
      = [{ endpoint := "https://cp.local", username := "admin", password := "pw" }] := by
  obtain ⟨endpoint, username, password, reached, user, pass, connects⟩ :=
    resolve_connects_as_provisioned Rehearsal.shownBy_plain RecordMap.empty planeSetting {} rfl rfl
      rfl rfl rfl (by decide) (registeredBundle "cp-system") (Or.inl rfl)
  obtain rfl : "https://cp.local" = endpoint := Option.some.inj reached
  obtain rfl : "admin" = username := Option.some.inj user
  obtain rfl : "pw" = password := Option.some.inj pass
  exact connects

/-- With the secret in another namespace than the registration that names it, the database is not
resolved, although all its records were accepted: the secret is looked for beside the registration. -/
theorem resolve_misses_distant_secret :
    RecordMap.ShownBy Rehearsal.plain id
      ∧ ∃ (report : Report) (left : Bundle) (provisioned : RecordMap),
        (provision (.ofLookup planeSetting) {} (registeredBundle "vault")).run Rehearsal.plain .empty
          = ((.ok report, left), provisioned)
        ∧ (∀ step ∈ Step.connecting, report.status? step = some .completed)
        ∧ Exchanges.connections ((resolve (registeredBundle "vault")).transcript Rehearsal.plain
          provisioned) = [] :=
  ⟨Rehearsal.shownBy_plain, _, _, _, rfl, by decide, by decide⟩

end Workflow

end DatabaseLifecycle

import DatabaseLifecycle.Proofs.Workflow.Refilled

/-!
What preparation changes, and that it changes nothing else: every record gets a namespace, secrets and
registration get the values of the environment, the database gets its cluster. All of that is in place
after the first time.
-/

namespace DatabaseLifecycle

/-- Metadata differs from what it was at most in the namespace, which is its own unless that is missing
or empty. -/
def Metadata.Supplied (target : String) (before after : Metadata) : Prop :=
  after = { before with
    namespaceName := some ((before.namespaceName.filter (· ≠ "")).getD target) }

/-- A secret differs from what it was in the namespace and in these texts, each under its key. -/
structure Secret.Supplied (target : String) (texts : List (String × String))
    (before after : Secret) : Prop where
  /-- The metadata has the namespace. -/
  metadata : before.metadata.Supplied target after.metadata
  /-- The texts are there, and under all other keys there is what was there before. -/
  text? (key : String) : after.text? key = (texts.lookup key).or (before.text? key)
  /-- All else is the same. -/
  rest : after = { before with metadata := after.metadata, stringData := after.stringData }

/-- A registration differs from what it was in the namespace and in the endpoint. -/
structure Server.Supplied (target endpoint : String) (before after : Server) : Prop where
  /-- The metadata has the namespace. -/
  metadata : before.metadata.Supplied target after.metadata
  /-- All else but the endpoint is the same. -/
  rest : after = { before with
    metadata := after.metadata
    spec := { before.spec with server := endpoint } }

/-- The mode is what it was, on the cluster that the environment names for it, if it names one. -/
def DatabaseMode.Supplied (environment : Environment) : DatabaseMode → DatabaseMode → Prop
  | .fresh before, after =>
    after = .fresh { before with clusterId := environment.instanceClusterId.getD before.clusterId }
  | .clone before, after =>
    after = .clone { before with clusterId := environment.cloneClusterId.getD before.clusterId }

/-- A database differs from what it was in the namespace and in the cluster. -/
structure Database.Supplied (target : String) (environment : Environment)
    (before after : Database) : Prop where
  /-- The metadata has the namespace. -/
  metadata : before.metadata.Supplied target after.metadata
  /-- The mode has the cluster. -/
  mode : before.spec.mode.Supplied environment after.spec.mode
  /-- All else is the same. -/
  rest : after = { before with
    metadata := after.metadata
    spec := { before.spec with mode := after.spec.mode } }

/-- A workload differs from what it was in the namespace. -/
structure Pod.Supplied (target : String) (before after : Pod) : Prop where
  /-- The metadata has the namespace. -/
  metadata : before.metadata.Supplied target after.metadata
  /-- All else is the same. -/
  rest : after = { before with metadata := after.metadata }

/-- A bundle has the records that it had, each supplied with the namespace of the bundle and with what
the environment has for it. -/
structure Bundle.Supplied (environment : Environment) (before after : Bundle) : Prop where
  /-- The database's secret has its password. -/
  databaseSecret : Option.Rel (fun secret filled =>
      ∃ password, environment.databasePassword = some password
        ∧ secret.Supplied before.namespaceName [(Credentials.passwordKey, password)] filled)
    before.databaseSecret after.databaseSecret
  /-- The control plane's secret has the username and the password. -/
  serverSecret : Option.Rel (fun secret filled =>
      ∃ username password, environment.controlPlaneUsername = some username
        ∧ environment.controlPlanePassword = some password
        ∧ secret.Supplied before.namespaceName
          [(Credentials.usernameKey, username), (Credentials.passwordKey, password)] filled)
    before.serverSecret after.serverSecret
  /-- The control plane's registration has the endpoint. -/
  server : Option.Rel (fun server filled =>
      ∃ endpoint, environment.controlPlaneEndpoint = some endpoint
        ∧ server.Supplied before.namespaceName endpoint filled)
    before.server after.server
  /-- The database has its cluster. -/
  database : Option.Rel (Database.Supplied before.namespaceName environment)
    before.database after.database
  /-- The workload has its namespace. -/
  workload : Option.Rel (Pod.Supplied before.namespaceName) before.workload after.workload

/-- Metadata is supplied with a namespace. -/
theorem Metadata.supplied_withNamespace (metadata : Metadata) (target : String) :
    metadata.Supplied target (metadata.withNamespace target) := by
  rw [Supplied, ← namespaceOr_eq]
  rfl

/-- A secret is supplied with texts under distinct keys. -/
theorem Secret.supplied_inject (secret : Secret) (target : String) {texts : List (String × String)}
    (distinct : (texts.map (·.1)).Nodup) :
    secret.Supplied target texts
      ({ secret with metadata := secret.metadata.withNamespace target }.inject texts) where
  metadata := secret.metadata.supplied_withNamespace target
  text? key := by
    rw [Secret.text?_inject, Table.lookup_reverse distinct]
    rfl
  rest := rfl

namespace Bundle

variable {environment : Environment} {bundle prepared : Bundle}

/-- A database is supplied with the cluster of its mode. -/
theorem supplied_placed (environment : Environment) (spec : DatabaseSpec) :
    spec.mode.Supplied environment (placed environment spec).mode := by
  cases mode : spec.mode with
  | fresh fresh => exact placed_fresh environment mode
  | clone clone => exact placed_clone environment mode

/-- Placing a database changes nothing of its specification but the mode. -/
theorem placed_eq (environment : Environment) (spec : DatabaseSpec) :
    placed environment spec = { spec with mode := (placed environment spec).mode } := by
  unfold placed
  cases environment.clusterId spec.isClone <;> rfl

/-- Records that are changed one by one are related as each is to what it becomes. -/
theorem rel_map {ρ : Type} {related : ρ → ρ → Prop} {change : ρ → ρ} {record : Option ρ}
    (each : ∀ present ∈ record, related present (change present)) :
    Option.Rel related record (record.map change) := by
  cases record with
  | none => exact .none
  | some present => exact .some (each present rfl)

/-- The password is filled in to the database's secret. -/
theorem supplied_filledDatabaseSecret {password : String}
    (set : environment.databasePassword = some password) (target : String) (secret : Secret) :
    secret.Supplied target [(Credentials.passwordKey, password)]
      (filledDatabaseSecret environment target secret) := by
  have distinct : [Credentials.passwordKey].Nodup := by decide
  rw [filledDatabaseSecret, set]
  exact secret.supplied_inject target distinct

/-- The username and the password are filled in to the control plane's secret. -/
theorem supplied_filledServerSecret {username password : String}
    (named : environment.controlPlaneUsername = some username)
    (keyed : environment.controlPlanePassword = some password) (target : String) (secret : Secret) :
    secret.Supplied target
      [(Credentials.usernameKey, username), (Credentials.passwordKey, password)]
      (filledServerSecret environment target secret) := by
  have distinct : [Credentials.usernameKey, Credentials.passwordKey].Nodup := by decide
  rw [filledServerSecret, named, keyed]
  exact secret.supplied_inject target distinct

/-- The endpoint is filled in to the control plane's registration. -/
theorem supplied_filledServer {endpoint : String}
    (set : environment.controlPlaneEndpoint = some endpoint) (target : String) (server : Server) :
    server.Supplied target endpoint (filledServer environment target server) where
  metadata := server.metadata.supplied_withNamespace target
  rest := by
    rw [filledServer, set]
    rfl

/-- A bundle whose records have all that they need is supplied with it when it is filled in. -/
theorem supplied_filled (provided : bundle.Provided environment) :
    bundle.Supplied environment (bundle.filled environment) where
  databaseSecret := rel_map fun secret there => by
    have needed := provided.databasePassword (Option.isSome_of_mem there)
    obtain ⟨password, set⟩ := Option.isSome_iff_exists.mp needed
    exact ⟨password, set, supplied_filledDatabaseSecret set _ secret⟩
  serverSecret := rel_map fun secret there => by
    have locked := Option.isSome_of_mem there
    obtain ⟨username, named⟩ := Option.isSome_iff_exists.mp (provided.username locked)
    obtain ⟨password, keyed⟩ := Option.isSome_iff_exists.mp (provided.password locked)
    exact ⟨username, password, named, keyed, supplied_filledServerSecret named keyed _ secret⟩
  server := rel_map fun server there => by
    have needed := provided.endpoint (Option.isSome_of_mem there)
    obtain ⟨endpoint, set⟩ := Option.isSome_iff_exists.mp needed
    exact ⟨endpoint, set, supplied_filledServer set _ server⟩
  database := rel_map fun database _ =>
    { metadata := database.metadata.supplied_withNamespace _
      mode := supplied_placed environment database.spec
      rest := congrArg (fun spec => Database.mk _ spec database.status)
        (placed_eq environment database.spec) }
  workload := rel_map fun pod _ =>
    { metadata := pod.metadata.supplied_withNamespace _
      rest := rfl }

/-- A prepared bundle is prepared already. -/
theorem prepare_prepared (ready : bundle.prepare environment = (.ok (), prepared)) :
    prepared.prepare environment = (.ok (), prepared) := by
  obtain ⟨faultless, left⟩ := prepare_eq_filled ready
  have fine : firstFault? (prepared.preparationFaults environment) = none := by
    rw [left, preparationFaults_filled, faultless]
  -- What the environment has for the bundle was filled in the first time.
  have covered : CoversCluster environment environment bundle := fun _ _ named => named
  have again := prepare_refilled covered
  rw [ready, ← left] at again
  have ends := prepare_endsUnlessFaulty environment prepared
  rw [EndsUnlessFaulty, fine] at ends
  rw [ends, again]

/-- Preparation that succeeds supplies every record with its namespace and with what the environment has
for it, changes nothing else, and would change nothing a second time. The namespace of a bundle is that
of its database, unless that is missing or empty. -/
theorem preparation_supplies_only (ready : bundle.prepare environment = (.ok (), prepared)) :
    bundle.namespaceName
        = ((bundle.database.bind (·.metadata.namespaceName)).filter (· ≠ "")).getD "default"
      ∧ bundle.Supplied environment prepared
      ∧ prepared.prepare environment = (.ok (), prepared) := by
  obtain ⟨faultless, left⟩ := prepare_eq_filled ready
  refine ⟨?home, ?supplied, prepare_prepared ready⟩
  case home =>
    cases database : bundle.database with
    | none =>
      rw [namespaceName, database]
      rfl
    | some record =>
      rw [namespaceName, database]
      exact record.metadata.namespaceOr_eq defaultNamespace
  case supplied =>
    rw [left]
    exact supplied_filled (provided_of_faultless faultless)

/-- A database in a namespace of its own, with a secret that names an empty one and holds texts. -/
def shopBundle : Bundle where
  databaseSecret := some {
    metadata := { name := some "orders-db", namespaceName := some "" }
    stringData := some (.ofList [("note", "rotate"), ("password", "template")]) }
  database := some {
    metadata := { name := some "orders", namespaceName := some "shop" }
    spec := ⟨"cp", .fresh {
      name := "orders", clusterId := "west", credentialSecret := "orders-db", type := "postgres" }⟩ }

/-- The secret gets the namespace of the database and its password, and keeps its other text. -/
theorem preparation_supplies_only_secret :
    ∃ prepared secret,
      shopBundle.prepare { databasePassword := some "pw", cloneClusterId := some "east" }
        = (.ok (), prepared)
      ∧ shopBundle.Supplied { databasePassword := some "pw", cloneClusterId := some "east" } prepared
      ∧ prepared.databaseSecret = some secret
      ∧ secret.metadata.namespaceName = some "shop"
      ∧ secret.text? "password" = some "pw" ∧ secret.text? "note" = some "rotate"
      ∧ prepared.database.map (·.spec) = shopBundle.database.map (·.spec) := by
  obtain ⟨_, supplied, _⟩ := preparation_supplies_only
    (show shopBundle.prepare { databasePassword := some "pw", cloneClusterId := some "east" }
      = (.ok (), _) from rfl)
  exact ⟨_, _, rfl, supplied, rfl, rfl, by decide +kernel, by decide +kernel, rfl⟩

end Bundle

end DatabaseLifecycle

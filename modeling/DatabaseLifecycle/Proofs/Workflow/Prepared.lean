import DatabaseLifecycle.Proofs.Resource.Clone
import DatabaseLifecycle.Proofs.Workflow.Preparation

/-!
Preparation in closed form: the first fault that applies ends it, and without a fault every record is
filled in.
-/

namespace DatabaseLifecycle

/-- The error of the first fault that applies. -/
def firstFault? (faults : List (Bool × Error)) : Option Error := (faults.find? (·.1)).map (·.2)

/-- No fault, no error. -/
@[simp] theorem firstFault?_nil : firstFault? [] = none := rfl

/-- A fault that applies hides those after it. -/
@[simp] theorem firstFault?_cons (applies : Bool) (error : Error) (rest : List (Bool × Error)) :
    firstFault? ((applies, error) :: rest) = if applies then some error else firstFault? rest := by
  cases applies <;> rfl

/-- There is no error exactly when none of the faults applies. -/
theorem firstFault?_eq_none {faults : List (Bool × Error)} :
    firstFault? faults = none ↔ ∀ fault ∈ faults, fault.1 = false := by
  simp [firstFault?]

/-- The faults of two lists in a row are looked through in a row. -/
theorem firstFault?_append (faults others : List (Bool × Error)) :
    firstFault? (faults ++ others) = (firstFault? faults).or (firstFault? others) := by
  induction faults with
  | nil => rfl
  | cons fault rest found =>
    obtain ⟨applies, error⟩ := fault
    rw [List.cons_append, firstFault?_cons, firstFault?_cons, found]
    cases applies <;> rfl

/-- The error of the first fault that applies, or a value if there is none. -/
def unlessFaulty {α : Type} (faults : List (Bool × Error)) (value : α) : Except Error α :=
  match firstFault? faults with
  | some error => .error error
  | none => .ok value

/-- Without faults there is a value. -/
@[simp] theorem unlessFaulty_nil {α : Type} (value : α) : unlessFaulty [] value = .ok value := rfl

/-- A fault that applies is in the way of the value. -/
@[simp] theorem unlessFaulty_cons {α : Type} (applies : Bool) (error : Error)
    (rest : List (Bool × Error)) (value : α) :
    unlessFaulty ((applies, error) :: rest) value =
      if applies then .error error else unlessFaulty rest value := by
  cases applies <;> rfl

/-- What stands in the way of a value stands in the way of all that is made from it, and comes before
what else does. -/
theorem unlessFaulty_bind {α β : Type} {faults others : List (Bool × Error)} {value : α}
    {next : α → Except Error β} {result : β} (continued : next value = unlessFaulty others result) :
    (unlessFaulty faults value >>= next) = unlessFaulty (faults ++ others) result := by
  unfold unlessFaulty at continued ⊢
  rw [firstFault?_append]
  cases firstFault? faults with
  | some error => rfl
  | none => exact continued

/-- A clone on the cluster that the environment names for clones, if it names one. -/
def Environment.placedClone (environment : Environment) (clone : CloneSpec) : CloneSpec :=
  { clone with clusterId := environment.cloneClusterId.getD clone.clusterId }

/-- A clone on the environment's cluster stays there. -/
theorem Environment.placedClone_placedClone (environment : Environment) (clone : CloneSpec) :
    environment.placedClone (environment.placedClone clone) = environment.placedClone clone := by
  unfold placedClone
  cases environment.cloneClusterId <;> rfl

/-- The error of a variable that must be set and is not. -/
def Error.unset (name : String) : Error := .configuration (name ++ " is not set")

/-- A required variable that is not set is a fault. -/
theorem Environment.require_eq (value : Option String) (name : String) :
    require value name = unlessFaulty [(value.isNone, .unset name)] (value.getD "") := by
  cases value <;> rfl

namespace Bundle

variable {environment : Environment} {target : String} {bundle prepared : Bundle}

/-- The clone that a bundle asks for, if it asks for one. -/
def clone? (bundle : Bundle) : Option CloneSpec :=
  bundle.database.bind fun database =>
    match database.spec.mode with
    | .fresh _ => none
    | .clone clone => some clone

/-- The fields that a bundle's clone cannot be submitted without and that are blank once it is on the
environment's cluster. -/
def blankCloneFields (environment : Environment) (bundle : Bundle) : List String :=
  (bundle.clone?.map fun clone => (environment.placedClone clone).blankFields).getD []

/-- The name of a bundle's database. -/
def databaseName (bundle : Bundle) : String :=
  (bundle.database.map fun database => database.metadata.effectiveName).getD ""

/-- What can be wrong with the preparation of a bundle, with its error, in the order in which it is
looked for. -/
def preparationFaults (environment : Environment) (bundle : Bundle) : List (Bool × Error) := [
  (bundle.databaseSecret.isSome && environment.databasePassword.isNone,
    .unset Environment.databasePasswordVariable),
  (bundle.serverSecret.isSome && environment.controlPlaneUsername.isNone,
    .unset Environment.usernameVariable),
  (bundle.serverSecret.isSome && environment.controlPlanePassword.isNone,
    .unset Environment.passwordVariable),
  (bundle.server.isSome && environment.controlPlaneEndpoint.isNone,
    .unset Environment.endpointVariable),
  (!(bundle.blankCloneFields environment).isEmpty,
    .validation bundle.databaseName
      ("clone requires non-empty " ++ ", ".intercalate (bundle.blankCloneFields environment)))]

/-- A database secret with its namespace and the password of the environment. -/
def filledDatabaseSecret (environment : Environment) (target : String) (secret : Secret) : Secret :=
  { secret with metadata := secret.metadata.withNamespace target }.inject
    [(Credentials.passwordKey, environment.databasePassword.getD "")]

/-- A control plane secret with its namespace and the username and password of the environment. -/
def filledServerSecret (environment : Environment) (target : String) (secret : Secret) : Secret :=
  { secret with metadata := secret.metadata.withNamespace target }.inject
    [(Credentials.usernameKey, environment.controlPlaneUsername.getD ""),
      (Credentials.passwordKey, environment.controlPlanePassword.getD "")]

/-- A server registration with its namespace and the endpoint of the environment. -/
def filledServer (environment : Environment) (target : String) (server : Server) : Server :=
  { server with
    metadata := server.metadata.withNamespace target
    spec := { server.spec with server := environment.controlPlaneEndpoint.getD "" } }

/-- The bundle with every record filled in. -/
def filled (environment : Environment) (bundle : Bundle) : Bundle where
  databaseSecret :=
    bundle.databaseSecret.map (filledDatabaseSecret environment bundle.namespaceName)
  serverSecret := bundle.serverSecret.map (filledServerSecret environment bundle.namespaceName)
  server := bundle.server.map (filledServer environment bundle.namespaceName)
  database := (placeDatabase environment bundle.namespaceName bundle).database
  workload := (placeWorkload bundle.namespaceName bundle).workload

/-- The stage of the database's secret needs one variable. -/
theorem fillDatabaseSecret_eq (environment : Environment) (target : String) (bundle : Bundle) :
    fillDatabaseSecret environment target bundle = unlessFaulty [
        (bundle.databaseSecret.isSome && environment.databasePassword.isNone,
          .unset Environment.databasePasswordVariable)]
      { bundle with
        databaseSecret := bundle.databaseSecret.map (filledDatabaseSecret environment target) } := by
  obtain ⟨databaseSecret, serverSecret, server, database, workload⟩ := bundle
  cases databaseSecret with
  | none => rfl
  | some secret =>
    unfold fillDatabaseSecret
    rw [Environment.require_eq]
    exact unlessFaulty_bind rfl

/-- The stage of the control plane's secret needs two variables. -/
theorem fillServerSecret_eq (environment : Environment) (target : String) (bundle : Bundle) :
    fillServerSecret environment target bundle = unlessFaulty [
        (bundle.serverSecret.isSome && environment.controlPlaneUsername.isNone,
          .unset Environment.usernameVariable),
        (bundle.serverSecret.isSome && environment.controlPlanePassword.isNone,
          .unset Environment.passwordVariable)]
      { bundle with
        serverSecret := bundle.serverSecret.map (filledServerSecret environment target) } := by
  obtain ⟨databaseSecret, serverSecret, server, database, workload⟩ := bundle
  cases serverSecret with
  | none => rfl
  | some secret =>
    -- The username is looked for first, the password only if there is one.
    unfold fillServerSecret
    rw [Environment.require_eq, Environment.require_eq]
    apply unlessFaulty_bind
    exact unlessFaulty_bind rfl

/-- The stage of the control plane's registration needs one variable. -/
theorem fillServer_eq (environment : Environment) (target : String) (bundle : Bundle) :
    fillServer environment target bundle = unlessFaulty [
        (bundle.server.isSome && environment.controlPlaneEndpoint.isNone,
          .unset Environment.endpointVariable)]
      { bundle with server := bundle.server.map (filledServer environment target) } := by
  obtain ⟨databaseSecret, serverSecret, server, database, workload⟩ := bundle
  cases server with
  | none => rfl
  | some server =>
    unfold fillServer
    rw [Environment.require_eq]
    exact unlessFaulty_bind rfl

/-- The cluster of the environment replaces that of a clone. -/
theorem placed_clone (environment : Environment) {spec : DatabaseSpec} {clone : CloneSpec}
    (mode : spec.mode = .clone clone) :
    (placed environment spec).mode = .clone (environment.placedClone clone) := by
  unfold placed Environment.placedClone
  rw [DatabaseSpec.isClone_of_clone mode, Environment.clusterId, if_pos rfl]
  cases environment.cloneClusterId with
  | none => exact mode
  | some clusterId => simp [DatabaseSpec.withClusterId, mode]

/-- An instance stays one on the cluster of the environment. -/
theorem placed_fresh (environment : Environment) {spec : DatabaseSpec} {fresh : InstanceSpec}
    (mode : spec.mode = .fresh fresh) :
    (placed environment spec).mode =
      .fresh { fresh with clusterId := environment.instanceClusterId.getD fresh.clusterId } := by
  unfold placed
  rw [DatabaseSpec.isClone_of_fresh mode, Environment.clusterId, if_neg Bool.false_ne_true]
  cases environment.instanceClusterId with
  | none => exact mode
  | some clusterId => simp [DatabaseSpec.withClusterId, mode]

/-- A placed database is checked for the fields that are blank on the environment's cluster. -/
theorem checkClone_placeDatabase (environment : Environment) (target : String) (bundle : Bundle) :
    checkClone (placeDatabase environment target bundle) = unlessFaulty [
        (!(bundle.blankCloneFields environment).isEmpty,
          .validation bundle.databaseName
            ("clone requires non-empty " ++ ", ".intercalate (bundle.blankCloneFields environment)))]
      (placeDatabase environment target bundle) := by
  obtain ⟨databaseSecret, serverSecret, server, database, workload⟩ := bundle
  cases database with
  | none => rfl
  | some database =>
    cases mode : database.spec.mode with
    | fresh fresh =>
      -- An instance has nothing to check.
      have kept := placed_fresh environment mode
      simp [checkClone, placeDatabase, blankCloneFields, clone?, mode, kept]
    | clone clone =>
      have moved := placed_clone environment mode
      have blank : blankCloneFields environment
            ⟨databaseSecret, serverSecret, server, some database, workload⟩
          = (environment.placedClone clone).blankFields := by
        simp [blankCloneFields, clone?, mode]
      rw [blank, unlessFaulty_cons, unlessFaulty_nil]
      simp only [checkClone, placeDatabase, Option.map_some, moved, CloneSpec.validate_eq,
        Metadata.effectiveName_withNamespace, databaseName, Option.getD_some]
      generalize (environment.placedClone clone).blankFields = fields
      cases fields <;> rfl

/-- What stages come to when these faults can end them: the error of the first that applies, or else
this bundle. -/
def EndsUnlessFaulty (faults : List (Bool × Error)) (last : Bundle)
    (ended : Except Error Unit × Bundle) : Prop :=
  match firstFault? faults with
  | some error => ended.1 = .error error
  | none => ended = (.ok (), last)

/-- The faults of a stage come before those of the stages after it. -/
theorem inTurn_cons_endsUnlessFaulty {stage : Bundle → Except Error Bundle}
    {rest : List (Bundle → Except Error Bundle)} {faults others : List (Bool × Error)}
    {next last : Bundle} (staged : stage bundle = unlessFaulty faults next)
    (ends : EndsUnlessFaulty others last (inTurn rest next)) :
    EndsUnlessFaulty (faults ++ others) last (inTurn (stage :: rest) bundle) := by
  rw [EndsUnlessFaulty, firstFault?_append]
  cases found : firstFault? faults with
  | some error =>
    -- The stage fails, and the others do not come into it.
    rw [unlessFaulty, found] at staged
    simp [inTurn, staged]
  | none =>
    rw [unlessFaulty, found] at staged
    rw [inTurn, staged]
    exact ends

/-- A stage that cannot fail adds no faults. -/
theorem inTurn_cons_endsUnlessFaulty_of_ok {stage : Bundle → Except Error Bundle}
    {rest : List (Bundle → Except Error Bundle)} {others : List (Bool × Error)} {next last : Bundle}
    (staged : stage bundle = .ok next) (ends : EndsUnlessFaulty others last (inTurn rest next)) :
    EndsUnlessFaulty others last (inTurn (stage :: rest) bundle) := by
  rw [inTurn, staged]
  exact ends

/-- The first fault that applies ends the preparation; without one every record is filled in. -/
theorem prepare_endsUnlessFaulty (environment : Environment) (bundle : Bundle) :
    EndsUnlessFaulty (bundle.preparationFaults environment) (bundle.filled environment)
      (bundle.prepare environment) := by
  let target := bundle.namespaceName
  let first := { bundle with
    databaseSecret := bundle.databaseSecret.map (filledDatabaseSecret environment target) }
  let second := { first with
    serverSecret := bundle.serverSecret.map (filledServerSecret environment target) }
  let third := { second with server := bundle.server.map (filledServer environment target) }
  -- No stage changes what the faults of a later one are looked for in.
  have secrets := fillDatabaseSecret_eq environment target bundle
  have joined := fillServerSecret_eq environment target first
  have registered := fillServer_eq environment target second
  have checked := checkClone_placeDatabase environment target third
  exact inTurn_cons_endsUnlessFaulty secrets <| inTurn_cons_endsUnlessFaulty joined <|
    inTurn_cons_endsUnlessFaulty registered <| inTurn_cons_endsUnlessFaulty_of_ok rfl <|
    inTurn_cons_endsUnlessFaulty checked <| inTurn_cons_endsUnlessFaulty_of_ok rfl rfl

/-- Preparation fails exactly with the error of the first fault that applies. -/
theorem prepare_eq_error {environment : Environment} {bundle : Bundle} {error : Error} :
    (bundle.prepare environment).1 = .error error ↔
      firstFault? (bundle.preparationFaults environment) = some error := by
  -- Preparation ends as its list of faults says, so only the first of them matters.
  have ends := prepare_endsUnlessFaulty environment bundle
  rw [EndsUnlessFaulty] at ends
  cases found : firstFault? (bundle.preparationFaults environment) with
  | some cause =>
    rw [found] at ends
    rw [ends, Except.error.injEq, Option.some_inj]
  | none =>
    rw [found] at ends
    simp [ends]

/-- Preparation that succeeds leaves the bundle with every record filled in. -/
theorem prepare_eq_filled (ready : bundle.prepare environment = (.ok (), prepared)) :
    firstFault? (bundle.preparationFaults environment) = none
      ∧ prepared = bundle.filled environment := by
  have ends := prepare_endsUnlessFaulty environment bundle
  rw [EndsUnlessFaulty, ready] at ends
  cases found : firstFault? (bundle.preparationFaults environment) with
  | some cause =>
    rw [found] at ends
    cases ends
  | none =>
    rw [found] at ends
    exact ⟨rfl, (Prod.mk.inj ends).2⟩

/-- Every variable that a record of the bundle needs is set. -/
structure Provided (environment : Environment) (bundle : Bundle) : Prop where
  /-- The database's secret needs a password. -/
  databasePassword : bundle.databaseSecret.isSome → environment.databasePassword.isSome
  /-- The control plane's secret needs a username. -/
  username : bundle.serverSecret.isSome → environment.controlPlaneUsername.isSome
  /-- The control plane's secret needs a password, too. -/
  password : bundle.serverSecret.isSome → environment.controlPlanePassword.isSome
  /-- The control plane's registration needs an endpoint. -/
  endpoint : bundle.server.isSome → environment.controlPlaneEndpoint.isSome

/-- Without a fault every variable that is needed is set. -/
theorem provided_of_faultless
    (faultless : firstFault? (bundle.preparationFaults environment) = none) :
    bundle.Provided environment := by
  have fine := firstFault?_eq_none.mp faultless
  simp only [preparationFaults, List.forall_mem_cons, Bool.and_eq_false_imp, Option.isNone_eq_false_iff]
    at fine
  obtain ⟨databasePassword, username, password, endpoint, _⟩ := fine
  exact ⟨databasePassword, username, password, endpoint⟩

/-- When a registration and its secret could be prepared, the variables for them were set. -/
theorem variables_of_prepared (ready : bundle.prepare environment = (.ok (), prepared))
    (registered : bundle.server ≠ none) (locked : bundle.serverSecret ≠ none) :
    ∃ endpoint username password, environment.controlPlaneEndpoint = some endpoint
      ∧ environment.controlPlaneUsername = some username
      ∧ environment.controlPlanePassword = some password := by
  have provided := provided_of_faultless (prepare_eq_filled ready).1
  have registered := Option.isSome_iff_ne_none.mpr registered
  have locked := Option.isSome_iff_ne_none.mpr locked
  obtain ⟨endpoint, reached⟩ := Option.isSome_iff_exists.mp (provided.endpoint registered)
  obtain ⟨username, named⟩ := Option.isSome_iff_exists.mp (provided.username locked)
  obtain ⟨password, keyed⟩ := Option.isSome_iff_exists.mp (provided.password locked)
  exact ⟨endpoint, username, password, reached, named, keyed⟩

/-- Nothing is wrong with the preparation of a bundle without records. -/
theorem preparationFaults_of_isEmpty (empty : bundle.isEmpty = true) :
    firstFault? (bundle.preparationFaults environment) = none := by
  have absent := isEmpty_iff.mp empty
  -- Every fault is about a record that this bundle does not have.
  have secretless : bundle.databaseSecret = none := absent .databaseSecret (by decide)
  have tokenless : bundle.serverSecret = none := absent .serverSecret (by decide)
  have serverless : bundle.server = none := absent .server (by decide)
  have databaseless : bundle.database = none := absent .database (by decide)
  simp [preparationFaults, blankCloneFields, clone?, secretless, tokenless, serverless,
    databaseless]

end Bundle

end DatabaseLifecycle

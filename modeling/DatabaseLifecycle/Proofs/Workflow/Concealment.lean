import DatabaseLifecycle.Proofs.Document.Table
import DatabaseLifecycle.Workflow.Call
import DatabaseLifecycle.Workflow.Preparation
import Mathlib.Data.List.Forall2

/-!
Concealment: what is left of environments, credentials and bundles when a fixed text stands in place of
each password. Descriptions show no more than that, and preparation needs no more to decide what to do.
-/

namespace DatabaseLifecycle

namespace Table

/-- The table with a mask in place of what is under a key, if there is something. -/
def masked (key mask : String) (table : Table String) : Table String :=
  ⟨table.entries.map fun entry => (entry.1, if entry.1 = key then mask else entry.2),
    List.pairwise_map.2 table.ordered⟩

/-- A value that is put into a table is masked with it. -/
theorem masked_insert (key mask other value : String) (table : Table String) :
    (table.insert other value).masked key mask
      = (table.masked key mask).insert other (if other = key then mask else value) := by
  refine eq_of_entries ?_
  obtain ⟨entries, ordered⟩ := table
  simp only [masked, insert]
  clear ordered
  -- Masking leaves the keys, so the value goes to the same place.
  induction entries with
  | nil => rfl
  | cons entry rest step =>
    obtain ⟨first, kept⟩ := entry
    simp only [insertEntry, List.map_cons]
    by_cases before : other < first
    · simp [before]
    · by_cases same : other = first
      · simp [same]
      · simp [before, same, step]

end Table

namespace Secret

/-- The secret without its password among the values given as texts. -/
def concealed (secret : Secret) : Secret :=
  { secret with
    stringData := secret.stringData.map (·.masked Credentials.passwordKey Text.redacted) }

/-- A value as it is shown: that of a password is not. -/
def shown (entry : String × String) : String × String :=
  (entry.1, if entry.1 = Credentials.passwordKey then Text.redacted else entry.2)

/-- Values are concealed with the secret that they are put into. -/
theorem concealed_inject (secret : Secret) (values : List (String × String)) :
    (secret.inject values).concealed = secret.concealed.inject (values.map shown) := by
  have start : (secret.stringData.getD .empty).masked Credentials.passwordKey Text.redacted
      = secret.concealed.stringData.getD .empty := by
    cases present : secret.stringData with
    | none => simp only [concealed, present]; rfl
    | some table => simp only [concealed, present]; rfl
  have folded (table : Table String) :
      (values.foldl (fun table entry => table.insert entry.1 entry.2) table).masked
          Credentials.passwordKey Text.redacted
        = (values.map shown).foldl (fun table entry => table.insert entry.1 entry.2)
          (table.masked Credentials.passwordKey Text.redacted) := by
    -- The values go in one after another.
    induction values generalizing table with
    | nil => rfl
    | cons entry rest step =>
      rw [List.foldl_cons, step, Table.masked_insert]
      rfl
  have filled := (folded (secret.stringData.getD .empty)).trans (by rw [start])
  exact congrArg (fun table => { secret.concealed with stringData := some table }) filled

end Secret

/-- A record without its password. -/
def Kind.concealed : (kind : Kind) → kind.Record → kind.Record
  | secret, record => record.concealed
  | server, record | database, record | pod, record | service, record => record

/-- The credentials without the password. -/
def Credentials.concealed (credentials : Credentials) : Credentials :=
  { credentials with password := Text.redacted }

/-- The environment without its passwords, which remain set or unset. -/
def Environment.concealed (environment : Environment) : Environment :=
  { environment with
    databasePassword := environment.databasePassword.map fun _ => Text.redacted
    controlPlanePassword := environment.controlPlanePassword.map fun _ => Text.redacted }

/-- The bundle without the passwords in its two secrets. -/
def Bundle.concealed (bundle : Bundle) : Bundle :=
  { bundle with
    databaseSecret := bundle.databaseSecret.map Secret.concealed
    serverSecret := bundle.serverSecret.map Secret.concealed }

/-- A call without the passwords that it hands over. -/
def Call.concealed : Call → Call
  | create kind record => create kind (kind.concealed record)
  | connect credentials => connect credentials.concealed
  | call => call

/-- The description of credentials does not depend on the password. -/
theorem Credentials.description_concealed (credentials : Credentials) :
    credentials.concealed.description = credentials.description := rfl

/-- The description of an environment does not depend on its passwords. -/
theorem Environment.description_concealed (environment : Environment) :
    environment.concealed.description = environment.description := by
  -- Only whether a password is set is described.
  simp only [description, concealed, Option.map_map]
  rfl

namespace Bundle

variable {environment : Environment} {target : String} {bundle : Bundle}

/-- A concealed secret of a database is filled with a concealed password. -/
theorem fillDatabaseSecret_concealed (environment : Environment) (target : String) (bundle : Bundle) :
    (fillDatabaseSecret environment target bundle).map concealed
      = fillDatabaseSecret environment.concealed target bundle.concealed := by
  -- Only with a secret and a password is there anything to fill in.
  obtain ⟨databaseSecret, serverSecret, server, database, workload⟩ := bundle
  obtain ⟨databasePassword, username, password, endpoint, instances, clones⟩ := environment
  cases databaseSecret with
  | none => rfl
  | some secret =>
    cases databasePassword with
    | none => rfl
    | some password =>
      have filled := Secret.concealed_inject
        { secret with metadata := secret.metadata.withNamespace target }
        [(Credentials.passwordKey, password)]
      exact congrArg (fun secret => Except.ok (Bundle.mk (some secret)
        (serverSecret.map Secret.concealed) server database workload)) filled

/-- A concealed secret of a control plane is filled with a concealed password. -/
theorem fillServerSecret_concealed (environment : Environment) (target : String) (bundle : Bundle) :
    (fillServerSecret environment target bundle).map concealed
      = fillServerSecret environment.concealed target bundle.concealed := by
  -- The username is not concealed, the password is.
  obtain ⟨databaseSecret, serverSecret, server, database, workload⟩ := bundle
  obtain ⟨databasePassword, username, password, endpoint, instances, clones⟩ := environment
  cases serverSecret with
  | none => rfl
  | some secret =>
    cases username with
    | none => rfl
    | some username =>
      cases password with
      | none => rfl
      | some password =>
        have filled := Secret.concealed_inject
          { secret with metadata := secret.metadata.withNamespace target }
          [(Credentials.usernameKey, username), (Credentials.passwordKey, password)]
        exact congrArg (fun secret => Except.ok (Bundle.mk (databaseSecret.map Secret.concealed)
          (some secret) server database workload)) filled

/-- The registration of a control plane holds no password. -/
theorem fillServer_concealed (environment : Environment) (target : String) (bundle : Bundle) :
    (fillServer environment target bundle).map concealed
      = fillServer environment.concealed target bundle.concealed := by
  obtain ⟨databaseSecret, serverSecret, server, database, workload⟩ := bundle
  obtain ⟨databasePassword, username, password, endpoint, instances, clones⟩ := environment
  cases server with
  | none => rfl
  | some server => cases endpoint <;> rfl

/-- Whether a clone can be submitted has nothing to do with passwords. -/
theorem checkClone_concealed (bundle : Bundle) :
    (checkClone bundle).map concealed = checkClone bundle.concealed := by
  obtain ⟨databaseSecret, serverSecret, server, database, workload⟩ := bundle
  -- Neither the record nor what it asks for is concealed.
  cases database with
  | none => rfl
  | some database =>
    cases mode : database.spec.mode with
    | fresh fresh => simp [checkClone, mode, concealed, Except.map]
    | clone clone =>
      simp only [checkClone, mode, concealed]
      cases clone.validate database.metadata.effectiveName <;> rfl

/-- Stages that work on concealed bundles as others do on bundles leave concealed what the others
leave. -/
theorem inTurn_concealed {stages hidden : List (Bundle → Except Error Bundle)}
    (same : List.Forall₂ (fun stage concealing =>
      ∀ bundle, (stage bundle).map concealed = concealing bundle.concealed) stages hidden)
    (bundle : Bundle) :
    ((inTurn stages bundle).1, (inTurn stages bundle).2.concealed)
      = inTurn hidden bundle.concealed := by
  induction same generalizing bundle with
  | nil => rfl
  | @cons stage concealing _ _ first _ rest =>
    have staged := first bundle
    rw [inTurn, inTurn, ← staged]
    -- A stage fails on both sides for one cause, or on neither.
    cases stage bundle with
    | error error => rfl
    | ok next => exact rest next

/-- It makes no difference whether passwords are concealed before preparation or after it. -/
theorem prepare_concealed (environment : Environment) (bundle : Bundle) :
    ((bundle.prepare environment).1, (bundle.prepare environment).2.concealed)
      = bundle.concealed.prepare environment.concealed := by
  unfold prepare
  refine inTurn_concealed ?_ bundle
  -- Placing a database or a workload does not touch the secrets at all.
  refine .cons (fillDatabaseSecret_concealed environment _) ?_
  refine .cons (fillServerSecret_concealed environment _) ?_
  refine .cons (fillServer_concealed environment _) ?_
  exact .cons (fun _ => rfl) (.cons checkClone_concealed (.cons (fun _ => rfl) .nil))

end Bundle

end DatabaseLifecycle

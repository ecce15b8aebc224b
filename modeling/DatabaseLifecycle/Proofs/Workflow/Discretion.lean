import DatabaseLifecycle.Proofs.Store.Discretion
import DatabaseLifecycle.Proofs.Workflow.ReadBack
import DatabaseLifecycle.Workflow.Provision
import DatabaseLifecycle.Workflow.Resolve

/-!
Discretion: two runs with different passwords can be told apart by nothing but the passwords that they
hand over themselves. No result, report, line or other call of a workflow depends on one.
-/

namespace DatabaseLifecycle

namespace Workflow

variable {α β : Type} {among : Call → Prop}

/-- A program that has nothing to do with passwords does the same in both runs. -/
theorem coupled_of_isPlain {program : Workflow α}
    (makes : program.MakesOnly fun call : Call => among call ∧ call.IsPlain) :
    program.Coupled (Call.concealing among) Eq program :=
  Program.coupled_self makes (fun _ allowed => ⟨allowed.1, rfl⟩)
    fun _ allowed _ _ alike => alike.eq_of_isPlain allowed.2

/-- Logging a failure makes no other call. -/
theorem makesOnly_logFailure {allowed : Call → Prop} (logs : ∀ line, allowed (.log line))
    (operation : String) (error : Error) :
    (logFailure operation error).MakesOnly allowed := ⟨logs _, fun _ => trivial⟩

/-- Nor does logging the failure of a result. -/
theorem makesOnly_logged {allowed : Call → Prop} (logs : ∀ line, allowed (.log line))
    (operation : String) (result : Except Error α) :
    (logged operation result).MakesOnly allowed := by
  cases result with
  | ok value => trivial
  | error error => exact ⟨logs _, fun _ => trivial⟩

/-- Nor does noting how a wait has ended. -/
theorem makesOnly_noteHard {allowed : Call → Prop} (logs : ∀ line, allowed (.log line))
    (report : Report) (step : Step) (operation : String) (result : Except Error Unit) :
    (noteHard report step operation result).MakesOnly allowed := by
  cases result with
  | ok value => trivial
  | error error => exact ⟨logs _, fun _ => trivial⟩

/-- A poll makes the calls of its attempts and of its pauses. -/
theorem makesOnly_attempts {allowed : Call → Prop} {pause : Workflow Unit} {retryable : β → Bool}
    {attempt : α → Workflow (α × Except β Unit)} (pausing : pause.MakesOnly allowed)
    (attempting : ∀ current, (attempt current).MakesOnly allowed) (retries : Nat) (current : α) :
    (Poll.attempts pause retryable attempt retries current).MakesOnly allowed := by
  induction retries generalizing current with
  | zero => exact attempting current
  | succ retries polled =>
    refine (attempting current).bind fun ended => ?_
    obtain ⟨last, result⟩ := ended
    cases result with
    | ok value => trivial
    | error error =>
      -- Another attempt follows a pause, if one may help.
      simp only
      split
      · exact pausing.bind fun _ => polled last
      · trivial

/-- A wait for a status makes nothing but fetches and pauses. -/
theorem makesOnly_awaitStatus {allowed : Call → Prop} {kind : Kind} {status : kind.Record → String}
    {target : String} {budget : Budget} {namespaceName name : String} {submitted : kind.Record}
    (fetches : allowed (.fetch kind namespaceName name)) (sleeps : ∀ time, allowed (.sleep time)) :
    (awaitStatus kind status target budget namespaceName name submitted).MakesOnly allowed := by
  have pausing : (sleep budget.interval).MakesOnly allowed := ⟨sleeps _, fun _ => trivial⟩
  have fetching : (fetch kind namespaceName name).MakesOnly allowed :=
    ⟨fetches, fun _ => trivial⟩
  refine makesOnly_attempts pausing (fun current => fetching.bind fun reply => ?_) _ _
  cases reply with
  | error error => trivial
  | ok fetched =>
    -- The status decides how the attempt ends, without a further call.
    dsimp only
    split <;> trivial

section Provisioning

/-- Noting a submission only tells whether it was refused, and for what cause. -/
theorem coupled_note {report : Report} {step : Step} {operation : String} {result : Except Error α}
    {other : Except Error β} (same : failure? result = failure? other) :
    (note report step operation result).Coupled Coupling.provisioning Eq (note report step operation other) := by
  -- One cannot succeed where the other fails, and a failure is logged in the same words.
  cases result with
  | ok value =>
    cases other with
    | ok value => rfl
    | error error => cases same
  | error error =>
    cases other with
    | ok value => cases same
    | error cause =>
      obtain rfl : error = cause := Option.some.inj same
      refine coupled_of_isPlain ?_
      exact (makesOnly_logFailure (fun _ => ⟨trivial, trivial⟩) operation error).bind fun _ => trivial

/-- Two records that are the same but for a password are submitted with the same step. -/
theorem coupled_submit (kind : Kind) {report : Report} {step : Step}
    {record other : Option kind.Record}
    (same : record.map kind.concealed = other.map kind.concealed) :
    (submit report step kind record).Coupled Coupling.provisioning Eq (submit report step kind other) := by
  cases record with
  | none =>
    obtain rfl := Option.map_eq_none_iff.mp same.symm
    rfl
  | some record =>
    obtain ⟨other, rfl, shown⟩ := Option.map_eq_some_iff.mp same.symm
    have called : Coupling.provisioning.call (.create kind record) (.create kind other) :=
      ⟨trivial, congrArg (Call.create kind) shown.symm⟩
    exact ⟨called, fun reply answer alike => coupled_note (Call.RepliesAlike.failure?_eq alike)⟩

variable {first second : Bundle}

/-- The records of two bundles that are the same but for passwords are submitted alike. -/
theorem coupled_submitAll (same : first.concealed = second.concealed) :
    (submitAll first).Coupled Coupling.provisioning Eq (submitAll second) := by
  have databaseSecret := congrArg Bundle.databaseSecret same
  have serverSecret := congrArg Bundle.serverSecret same
  -- The other records hold no passwords, so there is nothing to conceal.
  have server := congrArg (·.server.map (Kind.concealed .server)) same
  have database := congrArg (·.database.map (Kind.concealed .database)) same
  have workload := congrArg (·.workload.map (Kind.concealed .pod)) same
  -- Each submission leaves the same report for the next one.
  refine Program.Coupled.bind (coupled_submit .secret databaseSecret) ?_
  rintro report _ rfl
  refine Program.Coupled.bind (coupled_submit .secret serverSecret) ?_
  rintro report _ rfl
  refine Program.Coupled.bind (coupled_submit .server server) ?_
  rintro report _ rfl
  refine Program.Coupled.bind (coupled_submit .database database) ?_
  rintro report _ rfl
  exact coupled_submit .pod workload

/-- Two runs end with the same report or error, and with bundles that are the same but for passwords. -/
def EndAlike (ended other : α × Bundle) : Prop :=
  ended.1 = other.1 ∧ ended.2.concealed = other.2.concealed

/-- Waiting for a record that is no secret has nothing to do with passwords. -/
theorem coupled_awaitStatus {kind : Kind} (plain : kind ≠ .secret) {status : kind.Record → String}
    {target : String} {budget : Budget} {namespaceName name : String} {submitted : kind.Record} :
    (awaitStatus kind status target budget namespaceName name submitted).Coupled Coupling.provisioning Eq
      (awaitStatus kind status target budget namespaceName name submitted) :=
  coupled_of_isPlain (makesOnly_awaitStatus ⟨plain, plain⟩ fun _ => ⟨trivial, trivial⟩)

/-- Waiting for a database leaves bundles that are the same but for passwords. -/
theorem coupled_awaitBundleDatabase {timings : Timings} {report : Report}
    (same : first.concealed = second.concealed) :
    (awaitBundleDatabase timings report first).Coupled Coupling.provisioning EndAlike
      (awaitBundleDatabase timings report second) := by
  -- Concealing leaves the database record, so both runs wait for the same one.
  have shown := congrArg Bundle.database same
  have database : first.database = second.database := shown
  unfold awaitBundleDatabase
  rw [database]
  cases second.database with
  | none => exact ⟨rfl, same⟩
  | some database =>
    refine Program.Coupled.bind (coupled_awaitStatus (show Kind.database ≠ .secret by decide)) ?_
    rintro ⟨last, outcome⟩ _ rfl
    refine (coupled_of_isPlain (makesOnly_noteHard (fun _ => ⟨trivial, trivial⟩) ..)).bind ?_
    rintro noted _ rfl
    exact ⟨rfl, congrArg (fun bundle : Bundle => { bundle with database := some last }) same⟩

/-- So does waiting for a workload. -/
theorem coupled_awaitBundleWorkload {timings : Timings} {report : Report}
    (same : first.concealed = second.concealed) :
    (awaitBundleWorkload timings report first).Coupled Coupling.provisioning EndAlike
      (awaitBundleWorkload timings report second) := by
  have shown := congrArg Bundle.workload same
  have workload : first.workload = second.workload := shown
  unfold awaitBundleWorkload
  rw [workload]
  cases second.workload with
  | none => exact ⟨rfl, same⟩
  | some pod =>
    refine Program.Coupled.bind (coupled_awaitStatus (show Kind.pod ≠ .secret by decide)) ?_
    rintro ⟨last, outcome⟩ _ rfl
    refine (coupled_of_isPlain (makesOnly_noteHard (fun _ => ⟨trivial, trivial⟩) ..)).bind ?_
    rintro noted _ rfl
    exact ⟨rfl, congrArg (fun bundle : Bundle => { bundle with workload := some last }) same⟩

/-- Bundles that are the same but for passwords are provisioned alike once they are prepared. -/
theorem coupled_provisionPrepared {timings : Timings} (same : first.concealed = second.concealed) :
    (provisionPrepared timings first).Coupled Coupling.provisioning EndAlike
      (provisionPrepared timings second) := by
  refine (coupled_submitAll same).bind ?_
  rintro report _ rfl
  refine (coupled_awaitBundleDatabase same).bind ?_
  rintro ⟨noted, left⟩ ⟨_, other⟩ ⟨rfl, still⟩
  exact coupled_awaitBundleWorkload still

/-- Environments that are the same but for passwords provision a bundle alike. -/
theorem coupled_provision {environment other : Environment} (timings : Timings) (bundle : Bundle)
    (same : environment.concealed = other.concealed) :
    (provision environment timings bundle).Coupled Coupling.provisioning EndAlike
      (provision other timings bundle) := by
  have logging (error : Error) : (logFailure "provision" error).Coupled Coupling.provisioning Eq
      (logFailure "provision" error) :=
    coupled_of_isPlain (makesOnly_logFailure (fun _ => ⟨trivial, trivial⟩) "provision" error)
  have prepared := (bundle.prepare_concealed environment).trans
    ((congrArg bundle.concealed.prepare same).trans (bundle.prepare_concealed other).symm)
  unfold provision
  by_cases empty : bundle.isEmpty = true
  · rw [if_pos empty, if_pos empty]
    refine (logging _).bind ?_
    rintro error _ rfl
    exact ⟨rfl, rfl⟩
  · rw [if_neg empty, if_neg empty]
    -- Preparation ends alike, with bundles that are the same but for passwords.
    generalize bundle.prepare environment = one at prepared ⊢
    generalize bundle.prepare other = another at prepared ⊢
    obtain ⟨result, first⟩ := one
    obtain ⟨_, second⟩ := another
    obtain ⟨rfl, shown⟩ := Prod.mk.inj prepared
    cases result with
    | error error =>
      refine (logging error).bind ?_
      rintro error _ rfl
      exact ⟨rfl, shown⟩
    | ok ready =>
      refine (coupled_provisionPrepared shown).bind ?_
      rintro ⟨report, left⟩ ⟨_, other⟩ ⟨rfl, still⟩
      exact ⟨rfl, still⟩

end Provisioning

section Resolution

/-- Two results are failures for one cause, or values that are related. -/
def ResultsAlike (related : α → β → Prop) : Except Error α → Except Error β → Prop
  | .ok value, .ok other => related value other
  | .error error, .error other => error = other
  | .ok _, .error _ | .error _, .ok _ => False

/-- Equal results are those that are alike with equal values. -/
theorem resultsAlike_eq {result other : Except Error α} :
    ResultsAlike Eq result other ↔ result = other := by
  cases result <;> cases other <;> simp [ResultsAlike]

variable {γ δ : Type}

/-- Programs that may fail are coupled if they go on from related values. -/
theorem coupled_run_bind {related : α → β → Prop} {later : γ → δ → Prop}
    {first : ExceptT Error Workflow α} {second : ExceptT Error Workflow β}
    {next : α → ExceptT Error Workflow γ} {after : β → ExceptT Error Workflow δ}
    (coupled : first.run.Coupled Coupling.resolution (ResultsAlike related) second.run)
    (follows : ∀ value other, related value other →
      (next value).run.Coupled Coupling.resolution (ResultsAlike later) (after other).run) :
    (first >>= next).run.Coupled Coupling.resolution (ResultsAlike later) (second >>= after).run := by
  rw [ExceptT.run_bind, ExceptT.run_bind]
  refine coupled.bind fun result other alike => ?_
  -- A failure ends both programs, for the same cause.
  cases result with
  | ok value =>
    cases other with
    | ok other => exact follows value other alike
    | error error => exact alike.elim
  | error error =>
    cases other with
    | ok other => exact alike.elim
    | error cause => exact alike

/-- A fetch of a record that is no secret gets the same result in both runs. -/
theorem coupled_fetch {kind : Kind} (plain : kind ≠ .secret) (namespaceName name : String) :
    (fetch kind namespaceName name).Coupled Coupling.resolution (ResultsAlike Eq)
      (fetch kind namespaceName name) := by
  refine ⟨⟨trivial, rfl⟩, fun reply answer alike => ?_⟩
  have same : reply = answer := alike.eq_of_isPlain plain
  exact resultsAlike_eq.mpr same

/-- A lookup on the control plane gets the same result in both runs. -/
theorem coupled_lookup (wanted : Lookup) :
    (lookup wanted).Coupled Coupling.resolution (ResultsAlike Eq) (lookup wanted) := by
  refine ⟨⟨trivial, rfl⟩, fun reply answer alike => ?_⟩
  have same : reply = answer := alike.eq_of_isPlain trivial
  exact resultsAlike_eq.mpr same

/-- Connecting has the same result for credentials that are the same but for their passwords. -/
theorem coupled_connect {credentials others : Credentials}
    (same : credentials.concealed = others.concealed) :
    (connect credentials).Coupled Coupling.resolution (ResultsAlike Eq) (connect others) := by
  refine ⟨⟨trivial, congrArg Call.connect same⟩, fun reply answer alike => ?_⟩
  -- The replies are the same even where the passwords are not.
  have same : reply = answer := by
    cases alike with
    | same => rfl
    | connected => rfl
  exact resultsAlike_eq.mpr same

/-- The secret that is fetched is the same in both runs, or the two differ in their passwords only. -/
theorem coupled_fetchSecret (namespaceName name : String) :
    (do return blameSecret name (← fetch .secret namespaceName name)).Coupled Coupling.resolution
      (ResultsAlike fun first second : Secret => first = second ∨ first.Interchangeable second)
      (do return blameSecret name (← fetch .secret namespaceName name)) := by
  refine ⟨⟨trivial, rfl⟩, fun reply answer alike => ?_⟩
  -- Failures are the same in both runs and are blamed on the same secret.
  cases alike with
  | same =>
    cases reply with
    | ok secret => exact Or.inl rfl
    | error error => rfl
  | fetched _ _ first second alike => exact Or.inr alike

/-- A value that two secrets share is read from both alike. -/
theorem value_congr {values others : Table String} {key : String}
    (same : values.find? key = others.find? key) (secret : String) :
    Credentials.value secret values key = Credentials.value secret others key := by
  unfold Credentials.value
  rw [same]

/-- Secrets that differ in their passwords only make credentials that do. -/
theorem credentialsOf_alike (server : Server) {first second : Secret}
    (alike : first.Interchangeable second) :
    ResultsAlike (fun credentials others : Credentials => credentials.concealed = others.concealed)
      (credentialsOf server first) (credentialsOf server second) := by
  obtain ⟨password, other, named, otherNamed, found, otherFound⟩ := alike.passwords
  have username := value_congr (alike.others Credentials.usernameKey (by decide))
    server.spec.credentialSecret
  unfold credentialsOf Credentials.ofSecret
  rw [username, Credentials.value_eq_ok found named, Credentials.value_eq_ok otherFound otherNamed]
  -- Without a username there are no credentials in either run.
  cases Credentials.value server.spec.credentialSecret second.values Credentials.usernameKey with
  | error error => rfl
  | ok username => rfl

/-- Resolution connects with credentials that are the same but for their passwords. -/
theorem coupled_connectRecords (bundle : Bundle) :
    (connectRecords bundle).run.Coupled Coupling.resolution (ResultsAlike Eq) (connectRecords bundle).run := by
  -- The registration and the record are fetched alike. From the secret on, the runs differ in the
  -- password only.
  unfold connectRecords
  cases bundle.server with
  | none => rfl
  | some server =>
    cases bundle.database with
    | none => rfl
    | some database =>
      refine coupled_run_bind (coupled_fetch (by decide) _ _) ?_
      rintro server _ rfl
      refine coupled_run_bind (coupled_fetch (by decide) _ _) ?_
      rintro record _ rfl
      refine coupled_run_bind (coupled_fetchSecret _ _) fun secret other alike => ?_
      have made : ResultsAlike (fun credentials others : Credentials =>
          credentials.concealed = others.concealed) (credentialsOf server secret)
          (credentialsOf server other) := by
        rcases alike with rfl | alike
        · cases credentialsOf server secret <;> rfl
        · exact credentialsOf_alike server alike
      refine coupled_run_bind made fun credentials others same => ?_
      refine coupled_run_bind (coupled_connect same) fun _ _ _ => ?_
      exact resultsAlike_eq.mpr rfl

/-- Resolution ends alike. -/
theorem coupled_resolve (bundle : Bundle) :
    (resolve bundle).Coupled Coupling.resolution Eq (resolve bundle) := by
  refine (coupled_connectRecords bundle).bind fun result other alike => ?_
  obtain rfl := resultsAlike_eq.mp alike
  exact coupled_of_isPlain (makesOnly_logged (fun _ => ⟨trivial, trivial⟩) "resolve" result)

/-- What is looked up for a record has nothing to do with passwords. -/
theorem coupled_statusLookup (record : Database) :
    (statusLookup record).run.Coupled Coupling.resolution (ResultsAlike Eq) (statusLookup record).run := by
  unfold statusLookup
  dsimp only
  -- Nothing is asked of the store, so both runs look up the same database.
  split
  · rfl
  · split
    · exact coupled_lookup _
    · exact coupled_lookup _

/-- The control plane's view of a database is the same in both runs. -/
theorem coupled_resolveStatus (bundle : Bundle) :
    (resolveStatus bundle).Coupled Coupling.resolution Eq (resolveStatus bundle) := by
  refine (coupled_resolve bundle).bind ?_
  rintro result _ rfl
  -- The record is the same in both runs, and so is all that is looked up for it.
  cases result with
  | error error => rfl
  | ok record =>
    refine (coupled_statusLookup record).bind fun found other alike => ?_
    obtain rfl := resultsAlike_eq.mp alike
    exact coupled_of_isPlain (makesOnly_logged (fun _ => ⟨trivial, trivial⟩) "resolve_status" found)

end Resolution

section Runs

variable {σ τ σ' τ' : Type} {environment other : Environment} {credentials others : Credentials}
  {provisioning : Program.Handler Call.interface σ} {another : Program.Handler Call.interface τ}
  {hidden : σ → τ → Prop} {state : σ} {start : τ}
  {resolving : Program.Handler Call.interface σ'} {further : Program.Handler Call.interface τ'}
  {unseen : σ' → τ' → Prop} {reached : σ'} {found : τ'}

/-- The calls of a run, its log lines among them, without the passwords that they hand over. -/
def shownCalls (handle : Program.Handler Call.interface σ) (state : σ) (program : Workflow α) :
    List Call :=
  (program.transcript handle state).map (·.call.concealed)

/-- Coupled programs make the same calls but for the passwords that they hand over. -/
theorem shownCalls_eq {among : Call → Prop} {ends : α → β → Prop} {first : Workflow α}
    {second : Workflow β} (coupled : first.Coupled (Call.concealing among) ends second)
    (held : (Call.concealing among).HeldBy provisioning another hidden)
    (same : hidden state start) :
    shownCalls provisioning state first = shownCalls another start second := by
  have sees (call following : Call) (counts : (Call.concealing among).call call following) :
      call.concealed = following.concealed := counts.2
  exact coupled.calls_eq sees held same

/-- Passwords do not leak. Provisioning with two environments that differ in the values of passwords only
ends with the same report or error, leaves bundles that differ in the passwords of secrets only, and makes
the same calls but for these, as long as the store's replies do not depend on submitted secrets. Resolution
ends with the same result and makes the same calls but for the password that it connects with, as long as
the stores differ in the password of the fetched secret only and the control plane answers alike. No
description of an environment or of credentials shows a password. -/
theorem passwords_concealed (environments : environment.concealed = other.concealed)
    (provisioned : Coupling.provisioning.HeldBy provisioning another hidden)
    (before : hidden state start)
    (resolved : Coupling.resolution.HeldBy resolving further unseen) (between : unseen reached found)
    (accounts : credentials.concealed = others.concealed) (timings : Timings) (bundle : Bundle) :
    EndAlike ((provision environment timings bundle).run provisioning state).1
        ((provision other timings bundle).run another start).1
      ∧ shownCalls provisioning state (provision environment timings bundle)
        = shownCalls another start (provision other timings bundle)
      ∧ ((resolve bundle).run resolving reached).1 = ((resolve bundle).run further found).1
      ∧ shownCalls resolving reached (resolve bundle) = shownCalls further found (resolve bundle)
      ∧ ((resolveStatus bundle).run resolving reached).1
        = ((resolveStatus bundle).run further found).1
      ∧ shownCalls resolving reached (resolveStatus bundle)
        = shownCalls further found (resolveStatus bundle)
      ∧ environment.description = other.description
      ∧ credentials.description = others.description := by
  -- Each workflow is coupled with itself in the other run; the handlers keep the coupling.
  have filling := coupled_provision timings bundle environments
  have resolving := coupled_resolve bundle
  have showing := coupled_resolveStatus bundle
  refine ⟨filling.run provisioned before, shownCalls_eq filling provisioned before,
    resolving.run resolved between, shownCalls_eq resolving resolved between,
    showing.run resolved between, shownCalls_eq showing resolved between, ?_, ?_⟩
  · rw [← environment.description_concealed, environments, other.description_concealed]
  · rw [← credentials.description_concealed, accounts, others.description_concealed]

end Runs

/-- A secret that is filled in with one password or with another is the same but for it. -/
theorem interchangeable_filled {environment other : Environment} {password another : String}
    (same : environment.concealed = other.concealed)
    (locked : environment.controlPlanePassword = some password) (named : password ≠ "")
    (also : other.controlPlanePassword = some another) (alsoNamed : another ≠ "") (target : String)
    (secret : Secret) :
    (Bundle.filledServerSecret environment target secret).Interchangeable
      (Bundle.filledServerSecret other target secret) := by
  have shown := congrArg Environment.controlPlaneUsername same
  have username : environment.controlPlaneUsername = other.controlPlaneUsername := shown
  -- Under other keys lie the same values, the username among them.
  constructor
  · intro key ordinary
    rw [Bundle.find?_values_filledServerSecret, Bundle.find?_values_filledServerSecret,
      if_neg ordinary, if_neg ordinary, username]
  · refine ⟨password, another, named, alsoNamed, ?_, ?_⟩
    · rw [Bundle.find?_values_filledServerSecret, if_pos rfl, locked, Option.getD_some]
    · rw [Bundle.find?_values_filledServerSecret, if_pos rfl, also, Option.getD_some]

/-- An environment with one password for everything. -/
def passwordEnvironment (password : String) : Environment where
  databasePassword := some password
  controlPlaneUsername := some "admin"
  controlPlanePassword := some password
  controlPlaneEndpoint := some "https://cp.local"

/-- The records of a database whose control plane has this password. -/
def passwordRecords (password : String) : RecordMap :=
  ((RecordMap.empty.insert .server ⟨"cp-system", "cp"⟩
      { metadata := { name := some "cp", namespaceName := some "cp-system" }
        spec := { server := "https://cp.local", credentialSecret := "cp-creds" } }).insert
    .database ⟨"shop", "orders"⟩
      { metadata := { name := some "orders", namespaceName := some "shop" }
        spec := ⟨"cp", .fresh { name := "orders", credentialSecret := "orders-db", type := "mysql" }⟩
        status := none }).insert
    .secret ⟨"cp-system", "cp-creds"⟩
      (Bundle.filledServerSecret (passwordEnvironment password) "cp-system" {})

/-- Two passwords are not told apart where the same database is provisioned and resolved. -/
theorem passwords_concealed_registered :
    ((resolve (registeredBundle "cp-system")).run Rehearsal.plain (passwordRecords "first")).1
        = ((resolve (registeredBundle "cp-system")).run Rehearsal.plain (passwordRecords "second")).1
      ∧ (passwordEnvironment "first").description = (passwordEnvironment "second").description := by
  have environments : (passwordEnvironment "first").concealed
      = (passwordEnvironment "second").concealed := rfl
  have alike : (Bundle.filledServerSecret (passwordEnvironment "first") "cp-system" {}).Interchangeable
      (Bundle.filledServerSecret (passwordEnvironment "second") "cp-system" {}) :=
    interchangeable_filled environments rfl (by decide) rfl (by decide) "cp-system" {}
  have records : RecordMap.SameButSecrets Secret.Indistinct (passwordRecords "first")
      (passwordRecords "second") := .insert _ _ alike
  have accounts : Credentials.concealed ⟨"https://cp.local", "admin", "first", none, false⟩
      = Credentials.concealed ⟨"https://cp.local", "admin", "second", none, false⟩ := rfl
  obtain ⟨_, _, resolved, _, _, _, described, _⟩ := passwords_concealed environments
    Rehearsal.heldBy_provisioning (.refl RecordMap.empty) Rehearsal.heldBy_resolution records accounts
    {} (registeredBundle "cp-system")
  exact ⟨resolved, described⟩

end Workflow

end DatabaseLifecycle

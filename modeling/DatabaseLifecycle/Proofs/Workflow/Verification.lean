import DatabaseLifecycle.Proofs.Schedule
import DatabaseLifecycle.Proofs.Workflow.Status

/-!
Verification of backup policies: which runs there are, and that only two of them succeed. Either nothing
was requested, and nothing is called, or every stage succeeded and the reported policy is the requested
one.
-/

namespace DatabaseLifecycle

/-- The bundle has a fresh instance with this time machine, whose service level asks for backups. -/
def Bundle.AsksFor (bundle : Bundle) (requested : BackupPolicy) : Prop :=
  ∃ database spec, bundle.database = some database ∧ database.spec.mode = .fresh spec
    ∧ spec.timeMachine = some requested ∧ requested.slaName ≠ "" ∧ requested.slaName ≠ "NONE"

namespace PolicyField

/-- The value that a time machine shows. A service level or a schedule that is not reported counts as
empty. -/
def shown : (field : PolicyField) → TimeMachine → field.Reported
  | name, machine => machine.name
  | description, machine => machine.description
  | slaName, machine => (machine.sla.map (·.name)).getD ""
  | dailySnapshotTime, machine => (machine.schedule.map (·.snapshotTimeOfDay)).getD ⟨0, 0, 0⟩
  | snapshotsPerDay, machine => (machine.schedule.map (·.continuous.snapshotsPerDay)).getD 0
  | logCatchUpFrequency, machine => (machine.schedule.map (·.continuous.logBackupInterval)).getD 0
  | weeklySnapshotDay, machine => (machine.schedule.map (·.weekly.dayOfWeek)).getD ""
  | monthlySnapshotDay, machine => (machine.schedule.map (·.monthly.dayOfMonth)).getD 0

/-- The reported policy has the values that the time machine shows. -/
theorem reported_policy (field : PolicyField) (machine : TimeMachine) :
    field.reported machine.policy = field.shown machine := by
  obtain ⟨_, _, _, _, _, sla, schedule⟩ := machine
  cases field <;> cases schedule <;> rfl

end PolicyField

namespace BackupPolicy

variable (requested : BackupPolicy) (machine : TimeMachine)

/-- The fields in which a time machine does not show what is requested. -/
def unmetFields : List PolicyField :=
  PolicyField.all.filter fun field =>
    ¬ field.Agrees (field.requested requested) (field.shown machine)

/-- What is said of the fields in which a time machine does not show what is requested. -/
def unmet : List Mismatch :=
  (requested.unmetFields machine).map fun field =>
    field.comparison (field.requested requested) (field.shown machine)

/-- A time machine shows what is requested. -/
structure Met : Prop where
  /-- It has the requested name. -/
  name : requested.name = machine.name
  /-- It is for what is requested. -/
  description : requested.description = machine.description
  /-- Its service level has the requested name. -/
  slaName : requested.slaName = (machine.sla.map (·.name)).getD ""
  /-- The daily snapshot is taken at the requested time. -/
  dailySnapshotTime : TimeOfDay.parse? requested.dailySnapshotTime
    = some ((machine.schedule.map (·.snapshotTimeOfDay)).getD ⟨0, 0, 0⟩)
  /-- As many snapshots are taken a day as requested. -/
  snapshotsPerDay : requested.snapshotsPerDay
    = (machine.schedule.map (·.continuous.snapshotsPerDay)).getD 0
  /-- As many minutes lie between two copies of the log as requested. -/
  logCatchUpFrequency : requested.logCatchUpFrequency
    = (machine.schedule.map (·.continuous.logBackupInterval)).getD 0
  /-- The weekly snapshot is taken on the requested day. -/
  weeklySnapshotDay : requested.weeklySnapshotDay
    = (machine.schedule.map (·.weekly.dayOfWeek)).getD ""
  /-- The monthly snapshot is taken on the requested day. -/
  monthlySnapshotDay : requested.monthlySnapshotDay
    = (machine.schedule.map (·.monthly.dayOfMonth)).getD 0

/-- The fields that disagree with the reported policy are those in which the time machine shows something
else. -/
theorem disagreements_policy :
    requested.disagreements machine.policy = requested.unmetFields machine := by
  simp only [disagreements, unmetFields, PolicyField.reported_policy]

/-- A time machine shows what is requested exactly when it does so in every field. -/
theorem met_iff : requested.Met machine ↔ requested.unmetFields machine = [] := by
  rw [← disagreements_policy, disagreements_eq_nil_iff]
  simp only [PolicyField.reported_policy]
  constructor
  · intro met field
    cases field
    case name => exact met.name
    case description => exact met.description
    case slaName => exact met.slaName
    case dailySnapshotTime => exact met.dailySnapshotTime
    case snapshotsPerDay => exact met.snapshotsPerDay
    case logCatchUpFrequency => exact met.logCatchUpFrequency
    case weeklySnapshotDay => exact met.weeklySnapshotDay
    case monthlySnapshotDay => exact met.monthlySnapshotDay
  · intro agree
    exact ⟨agree .name, agree .description, agree .slaName, agree .dailySnapshotTime,
      agree .snapshotsPerDay, agree .logCatchUpFrequency, agree .weeklySnapshotDay,
      agree .monthlySnapshotDay⟩

/-- The reported policy of a time machine is accepted if that shows what is requested. -/
theorem validate_of_met (met : requested.Met machine) :
    requested.validate machine.policy = .ok () := by
  rw [validate_eq, disagreements_policy, if_pos ((requested.met_iff machine).mp met)]

/-- Otherwise it is refused with all that is not as requested. -/
theorem validate_of_unmet (unmet : ¬ requested.Met machine) :
    requested.validate machine.policy = .error (.scheduleMismatch (requested.unmet machine)) := by
  have differs := mt (requested.met_iff machine).mpr unmet
  rw [validate_eq, disagreements_policy, if_neg differs, mismatches_eq, disagreements_policy,
    BackupPolicy.unmet]
  simp only [PolicyField.reported_policy]

end BackupPolicy

/-- How the resolution of a bundle's database ends, and the calls that it has made. -/
inductive Resolving (bundle : Bundle) : Exchanges → Except Error Database → Prop where
  | incomplete (lacks : bundle.server = none ∨ bundle.database = none) :
      Resolving bundle []
        (.error (.configuration "resolving a database needs both a server and a database template"))
  | attempted {registration home : RecordKey} {calls : Exchanges} {ended : Except Error Database}
      (registered : bundle.place? .server = some registration)
      (placed : bundle.place? .database = some home)
      (connecting : Connecting registration home calls ended) : Resolving bundle calls ended

/-- How the comparison of a requested policy with what the control plane reports for a record ends, and
the calls that it has made. -/
inductive PolicyComparison (requested : BackupPolicy) (record : Database) :
    Exchanges → Except Error Unit → Prop where
  | unviewed {lookups : Exchanges} {error : Error}
      (viewing : StatusLookup record lookups (.error error)) :
      PolicyComparison requested record lookups (.error error)
  | unattached {lookups : Exchanges} {status : ManagedDatabase}
      (viewing : StatusLookup record lookups (.ok status)) (empty : status.timeMachineId = "") :
      PolicyComparison requested record lookups
        (.error (.notFound "time machine of database" status.name))
  | unreported {lookups : Exchanges} {status : ManagedDatabase} {error : Error}
      (viewing : StatusLookup record lookups (.ok status)) (attached : status.timeMachineId ≠ "") :
      PolicyComparison requested record
        (lookups ++ [⟨.lookup (.timeMachine status.timeMachineId), .error error⟩]) (.error error)
  | different {lookups : Exchanges} {status : ManagedDatabase} {machine : TimeMachine}
      (viewing : StatusLookup record lookups (.ok status)) (attached : status.timeMachineId ≠ "")
      (unmet : ¬ requested.Met machine) :
      PolicyComparison requested record
        (lookups ++ [⟨.lookup (.timeMachine status.timeMachineId), .ok machine⟩])
        (.error (.scheduleMismatch (requested.unmet machine)))
  | agreed {lookups : Exchanges} {status : ManagedDatabase} {machine : TimeMachine}
      (viewing : StatusLookup record lookups (.ok status)) (attached : status.timeMachineId ≠ "")
      (met : requested.Met machine) :
      PolicyComparison requested record
        (lookups ++ [⟨.lookup (.timeMachine status.timeMachineId), .ok machine⟩]) (.ok ())

/-- How the verification of a bundle's backup policy ends, and all exchanges that it takes. -/
inductive Verification (bundle : Bundle) : Exchanges → Except Error Unit → Prop where
  | unrequested (unasked : ∀ requested, ¬ bundle.AsksFor requested) : Verification bundle [] (.ok ())
  | unresolved {requested : BackupPolicy} {calls : Exchanges} {error : Error}
      (asked : bundle.AsksFor requested) (resolving : Resolving bundle calls (.error error)) :
      Verification bundle (calls ++ [⟨.log (error.failureLine "resolve"), ()⟩]) (.error error)
  | compared {requested : BackupPolicy} {calls later : Exchanges} {record : Database}
      {ended : Except Error Unit} (asked : bundle.AsksFor requested)
      (resolving : Resolving bundle calls (.ok record))
      (comparing : PolicyComparison requested record later ended) :
      Verification bundle (calls ++ later ++ Workflow.failureLog "verify_time_machine" ended) ended

namespace Workflow

variable {bundle : Bundle} {exchanges : Exchanges}

/-- The requested policy is that of the bundle's template. -/
theorem requestedPolicy?_eq_some_iff {requested : BackupPolicy} :
    requestedPolicy? bundle = some requested ↔ bundle.AsksFor requested := by
  have backups : requested.requestsBackups = true ↔
      requested.slaName ≠ "" ∧ requested.slaName ≠ "NONE" := by
    simp [BackupPolicy.requestsBackups, BackupPolicy.noBackupNames]
  rw [requestedPolicy?, Option.filter_eq_some_iff, Option.bind_eq_some_iff, backups]
  constructor
  · rintro ⟨⟨database, present, policy⟩, named⟩
    rw [DatabaseSpec.backupPolicy?] at policy
    cases mode : database.spec.mode with
    | fresh spec =>
      rw [mode] at policy
      exact ⟨database, spec, present, mode, policy, named⟩
    | clone spec =>
      rw [mode] at policy
      cases policy
  · rintro ⟨database, spec, present, mode, policy, named⟩
    refine ⟨⟨database, present, ?_⟩, named⟩
    rw [DatabaseSpec.backupPolicy?, mode]
    exact policy

/-- No policy is requested exactly when the bundle asks for none. -/
theorem requestedPolicy?_eq_none_iff :
    requestedPolicy? bundle = none ↔ ∀ requested, ¬ bundle.AsksFor requested := by
  rw [Option.eq_none_iff_forall_ne_some]
  exact forall_congr' fun requested => not_congr requestedPolicy?_eq_some_iff

/-- Without a server registration or a database there is nothing to call. -/
theorem connectRecords_of_lacking (lacks : bundle.server = none ∨ bundle.database = none) :
    connectRecords bundle = throw
      (.configuration "resolving a database needs both a server and a database template") := by
  unfold connectRecords
  rcases lacks with serverless | databaseless
  · rw [serverless]
  · rw [databaseless]
    cases bundle.server <;> rfl

/-- The records of a bundle are resolved, unless it lacks one of the two that are needed. -/
theorem runs_connectRecords_iff {ended : Except Error Database} :
    (connectRecords bundle).run.Runs exchanges ended ↔ Resolving bundle exchanges ended := by
  constructor
  · intro runs
    cases registered : bundle.place? .server with
    | none =>
      have serverless : bundle.server = none := (Bundle.place?_eq_none (by decide)).mp registered
      rw [connectRecords_of_lacking (.inl serverless)] at runs
      obtain ⟨rfl, rfl⟩ := Program.runs_pure.mp runs
      exact .incomplete (.inl serverless)
    | some registration =>
      cases placed : bundle.place? .database with
      | none =>
        have databaseless : bundle.database = none := (Bundle.place?_eq_none (by decide)).mp placed
        rw [connectRecords_of_lacking (.inr databaseless)] at runs
        obtain ⟨rfl, rfl⟩ := Program.runs_pure.mp runs
        exact .incomplete (.inr databaseless)
      | some home => exact .attempted registered placed (runs_connectRecords registered placed runs)
  · intro resolving
    cases resolving with
    | incomplete lacks =>
      rw [connectRecords_of_lacking lacks]
      exact Program.runs_pure.mpr ⟨rfl, rfl⟩
    | attempted registered placed connecting => exact runs_of_connecting registered placed connecting

/-- A failed resolution is logged. -/
theorem runs_resolve_iff {ended : Except Error Database} :
    (resolve bundle).Runs exchanges ended ↔
      ∃ calls, Resolving bundle calls ended ∧ exchanges = calls ++ failureLog "resolve" ended := by
  simp only [← runs_connectRecords_iff]
  exact runs_bind_logged

/-- The comparison goes on only as long as its stages succeed. -/
theorem comparison_of_runs {requested : BackupPolicy} {record : Database}
    {ended : Except Error Unit} (runs : (comparePolicy requested record).run.Runs exchanges ended) :
    PolicyComparison requested record exchanges ended := by
  unfold comparePolicy at runs
  rw [Program.runs_run_bind] at runs
  rcases runs with ⟨error, viewing, rfl⟩ | ⟨lookups, status, _, rfl, viewing, runs⟩
  · exact .unviewed (runs_statusLookup.mp viewing)
  · have viewed := runs_statusLookup.mp viewing
    by_cases empty : status.timeMachineId = ""
    · -- There is nothing to look up, so the status was the last call.
      rw [if_pos (String.isEmpty_iff.mpr empty)] at runs
      obtain ⟨rfl, rfl⟩ := Program.runs_pure.mp runs
      rw [List.append_nil]
      exact .unattached viewed empty
    · rw [if_neg (mt String.isEmpty_iff.mp empty), Program.runs_run_bind] at runs
      rcases runs with ⟨error, reporting, rfl⟩ | ⟨_, machine, _, rfl, reporting, validating⟩
      · obtain rfl := runs_call.mp reporting
        exact .unreported viewed empty
      · obtain rfl := runs_call.mp reporting
        obtain ⟨rfl, rfl⟩ := Program.runs_pure.mp validating
        rw [List.append_nil]
        by_cases met : requested.Met machine
        · rw [requested.validate_of_met machine met]
          exact .agreed viewed empty met
        · rw [requested.validate_of_unmet machine met]
          exact .different viewed empty met

/-- Whatever way there is for a comparison to end, it can end that way. -/
theorem runs_of_comparison {requested : BackupPolicy} {record : Database}
    {ended : Except Error Unit} (comparing : PolicyComparison requested record exchanges ended) :
    (comparePolicy requested record).run.Runs exchanges ended := by
  unfold comparePolicy
  rw [Program.runs_run_bind]
  cases comparing with
  | unviewed viewing => exact .inl ⟨_, runs_statusLookup.mpr viewing, rfl⟩
  | unattached viewing empty =>
    refine .inr ⟨_, _, [], (List.append_nil _).symm, runs_statusLookup.mpr viewing, ?_⟩
    rw [if_pos (String.isEmpty_iff.mpr empty)]
    exact .done _
  | unreported viewing attached =>
    refine .inr ⟨_, _, _, rfl, runs_statusLookup.mpr viewing, ?_⟩
    rw [if_neg (mt String.isEmpty_iff.mp attached)]
    exact .ask (.done _)
  | @different _ _ machine viewing attached unmet =>
    refine .inr ⟨_, _, _, rfl, runs_statusLookup.mpr viewing, ?_⟩
    rw [if_neg (mt String.isEmpty_iff.mp attached), ← requested.validate_of_unmet machine unmet]
    exact .ask (.done _)
  | @agreed _ _ machine viewing attached met =>
    refine .inr ⟨_, _, _, rfl, runs_statusLookup.mpr viewing, ?_⟩
    rw [if_neg (mt String.isEmpty_iff.mp attached), ← requested.validate_of_met machine met]
    exact .ask (.done _)

/-- Where nothing is requested, nothing is called. -/
theorem silent_of_unasked {ended : Except Error Unit}
    (verification : Verification bundle exchanges ended)
    (unasked : ∀ requested, ¬ bundle.AsksFor requested) : exchanges = [] ∧ ended = .ok () := by
  cases verification with
  | unrequested => exact ⟨rfl, rfl⟩
  | unresolved asked => exact absurd asked (unasked _)
  | compared asked => exact absurd asked (unasked _)

/-- A requested policy is compared once the database is resolved. -/
theorem verification_of_runs {ended : Except Error Unit}
    (runs : (verifyPolicy bundle).Runs exchanges ended) : Verification bundle exchanges ended := by
  unfold verifyPolicy at runs
  cases asks : requestedPolicy? bundle with
  | none =>
    rw [asks] at runs
    obtain ⟨rfl, rfl⟩ := Program.runs_pure.mp runs
    exact .unrequested (requestedPolicy?_eq_none_iff.mp asks)
  | some requested =>
    rw [asks] at runs
    have asked := requestedPolicy?_eq_some_iff.mp asks
    obtain ⟨_, resolved, _, rfl, connecting, going⟩ := Program.runs_bind.mp runs
    obtain ⟨calls, resolving, rfl⟩ := runs_resolve_iff.mp connecting
    cases resolved with
    | error error =>
      -- The resolution has logged its failure, which is handed on.
      obtain ⟨rfl, rfl⟩ := Program.runs_pure.mp going
      rw [List.append_nil]
      exact .unresolved asked resolving
    | ok record =>
      obtain ⟨later, comparing, rfl⟩ := runs_bind_logged.mp going
      have compared := Verification.compared asked resolving (comparison_of_runs comparing)
      simpa only [failureLog, failure?, List.append_nil, List.append_assoc] using compared

/-- Whatever way there is for a verification to end, it can end that way. -/
theorem runs_of_verification {ended : Except Error Unit}
    (verification : Verification bundle exchanges ended) :
    (verifyPolicy bundle).Runs exchanges ended := by
  unfold verifyPolicy
  cases asks : requestedPolicy? bundle with
  | none =>
    obtain ⟨rfl, rfl⟩ := silent_of_unasked verification (requestedPolicy?_eq_none_iff.mp asks)
    exact .done _
  | some requested =>
    cases verification with
    | unrequested unasked => exact absurd (requestedPolicy?_eq_some_iff.mp asks) (unasked requested)
    | @unresolved _ calls _ _ resolving =>
      have connecting := runs_resolve_iff.mpr ⟨calls, resolving, rfl⟩
      exact Program.runs_bind.mpr ⟨_, _, [], (List.append_nil _).symm, connecting, .done _⟩
    | @compared other calls later _ _ asked resolving comparing =>
      -- The policy that is compared is the one that is asked for.
      have asksOther := requestedPolicy?_eq_some_iff.mpr asked
      obtain rfl : requested = other := Option.some.inj (asks.symm.trans asksOther)
      have connecting := runs_resolve_iff.mpr ⟨calls, resolving, rfl⟩
      refine Program.runs_bind.mpr ⟨_, _, _, ?_, connecting,
        runs_bind_logged.mpr ⟨later, runs_of_comparison comparing, rfl⟩⟩
      simp only [failureLog, failure?, List.append_nil, List.append_assoc]

/-- A policy is found to be as requested only after every stage succeeded. -/
theorem stages_of_verification (verification : Verification bundle exchanges (.ok ())) :
    (∀ requested, ¬ bundle.AsksFor requested) ∨
      ∃ requested calls record lookups status machine, bundle.AsksFor requested
        ∧ Resolving bundle calls (.ok record)
        ∧ StatusLookup record lookups (.ok status) ∧ status.timeMachineId ≠ ""
        ∧ exchanges
          = calls ++ lookups ++ [⟨.lookup (.timeMachine status.timeMachineId), .ok machine⟩]
        ∧ requested.Met machine := by
  cases verification with
  | unrequested unasked => exact .inl unasked
  | compared asked resolving comparing =>
    cases comparing with
    | agreed viewing attached met =>
      refine .inr ⟨_, _, _, _, _, _, asked, resolving, viewing, attached, ?_, met⟩
      simp only [failureLog, failure?, List.append_nil, List.append_assoc]

/-- Whatever the cluster and the control plane reply, a verification goes through its stages until one
fails and ends with that failure. It succeeds exactly when no policy is requested, and then nothing is
called, or when all stages succeed and the time machine shows in every field what the template requests.
-/
theorem verifyPolicy_accepts_iff {σ : Type} (handle : Program.Handler Call.interface σ) (state : σ)
    (bundle : Bundle) :
    let exchanges : Exchanges := (verifyPolicy bundle).transcript handle state
    let ended := ((verifyPolicy bundle).run handle state).1
    Verification bundle exchanges ended
      ∧ ((∀ requested, ¬ bundle.AsksFor requested) → exchanges = [])
      ∧ (ended = .ok () ↔ (∀ requested, ¬ bundle.AsksFor requested) ∨
        ∃ requested calls record lookups status machine, bundle.AsksFor requested
          ∧ Resolving bundle calls (.ok record)
          ∧ StatusLookup record lookups (.ok status) ∧ status.timeMachineId ≠ ""
          ∧ exchanges
            = calls ++ lookups ++ [⟨.lookup (.timeMachine status.timeMachineId), .ok machine⟩]
          ∧ requested.Met machine) := by
  intro exchanges ended
  have runs : (verifyPolicy bundle).Runs exchanges ended :=
    Program.runs_transcript handle (verifyPolicy bundle) state
  have verification := verification_of_runs runs
  refine ⟨verification, fun unasked => (silent_of_unasked verification unasked).1, ?_, ?_⟩
  · intro accepted
    rw [accepted] at verification
    exact stages_of_verification verification
  · rintro (unasked | ⟨requested, calls, record, lookups, status, machine, asked, resolving, viewing,
      attached, exchanged, met⟩)
    · exact (silent_of_unasked verification unasked).2
    · -- The same exchanges cannot end in another way.
      have compared := Verification.compared asked resolving (.agreed viewing attached met)
      simp only [failureLog, failure?, List.append_nil, ← List.append_assoc] at compared
      rw [← exchanged] at compared
      exact runs.unique (runs_of_verification compared)

/-- A policy with two snapshots a day under the service level `GOLD`. -/
def goldPolicy : BackupPolicy where
  name := "orders_TM"
  slaName := "GOLD"
  dailySnapshotTime := "02:30:00"
  snapshotsPerDay := 2
  logCatchUpFrequency := 30
  weeklySnapshotDay := "WEDNESDAY"
  monthlySnapshotDay := 17

/-- A database that asks for this policy, with the registration of its control plane. -/
def goldBundle : Bundle where
  server := some {
    metadata := { name := some "cp", namespaceName := some "cp-system" }
    spec := { credentialSecret := "cp-creds" } }
  database := some {
    metadata := { name := some "orders", namespaceName := some "shop" }
    spec := ⟨"cp", .fresh {
      name := "orders", credentialSecret := "orders-db", type := "postgres"
      timeMachine := some goldPolicy }⟩ }

/-- A time machine of the policy, under a service level of this name. -/
def machineUnder (level : String) : TimeMachine where
  id := "tm-7"
  name := "orders_TM"
  sla := some { id := "sla-1", name := level }
  schedule := some {
    snapshotTimeOfDay := ⟨2, 30, 0⟩
    continuous := { enabled := true, logBackupInterval := 30, snapshotsPerDay := 2 }
    weekly := { enabled := true, dayOfWeek := "WEDNESDAY" }
    monthly := { enabled := true, dayOfMonth := 17 } }

/-- A cluster in which the database lies as it was submitted but for its status, and a control plane that
reports the time machine under a service level of this name. -/
def rehearsedUnder (level : String) : Rehearsal where
  records := ((RecordMap.empty.insert .server ⟨"cp-system", "cp"⟩ {
      metadata := { name := some "cp" }
      spec := { server := "https://cp.local", credentialSecret := "cp-creds" } }
    ).insert .secret ⟨"cp-system", "cp-creds"⟩ {
      stringData := some (.ofList [("username", "admin"), ("password", "pw")]) }
    ).insert .database ⟨"shop", "orders"⟩ {
      metadata := { name := some "orders" }
      spec := ⟨"cp", .fresh { name := "orders", credentialSecret := "orders-db", type := "postgres" }⟩
      status := some { id := "db-7" } }
  lookupCues := [
    ("get_database_by_id",
      [.give ({ id := "db-7", name := "orders", timeMachineId := "tm-7" } : ManagedDatabase).write]),
    ("get_time_machine_by_id", [.give (machineUnder level).write])]

/-- The policy is accepted of a time machine that shows all of it, and refused of one under another service
level, although the record in the cluster asks for no policy at all. -/
theorem verifyPolicy_accepts_gold :
    goldBundle.AsksFor goldPolicy ∧ goldPolicy.Met (machineUnder "GOLD")
      ∧ ((verifyPolicy goldBundle).run Rehearsal.answer (rehearsedUnder "GOLD")).1 = .ok ()
      ∧ ((verifyPolicy goldBundle).run Rehearsal.answer (rehearsedUnder "SILVER")).1
        = .error (.scheduleMismatch [⟨"slaName", "GOLD", "SILVER"⟩]) := by
  obtain ⟨-, -, accepted⟩ := verifyPolicy_accepts_iff Rehearsal.answer (rehearsedUnder "GOLD") goldBundle
  have asked : goldBundle.AsksFor goldPolicy := ⟨_, _, rfl, rfl, rfl, by decide, by decide⟩
  have met : goldPolicy.Met (machineUnder "GOLD") := by
    constructor <;> rfl
  refine ⟨asked, met, accepted.mpr (.inr ?_), by decide +kernel⟩
  exact ⟨goldPolicy, _, _, _, { id := "db-7", name := "orders", timeMachineId := "tm-7" },
    machineUnder "GOLD", asked, .attempted rfl rfl (.connected rfl), .fresh (by decide) rfl, by decide,
    rfl, met⟩

end Workflow

end DatabaseLifecycle

import DatabaseLifecycle.Proofs.TimeOfDay

/-!
Exactness of the comparison of backup policies: although values are compared by their wording, the
mismatches are the fields that differ as values, each for itself. A schedule that was not loaded
counts as empty, so exactly a request for an empty schedule cannot be told from it.
-/

namespace DatabaseLifecycle

namespace TimeOfDay

/-- Times that are worded alike are the same, whether or not they are times of a day. -/
theorem text_inj {first second : TimeOfDay} : first.text = second.text ↔ first = second := by
  refine ⟨fun same => ?_, congrArg text⟩
  -- The common wording writes both.
  have other := writes_text second
  rw [← same] at other
  exact (writes_text first).unique other

/-- The wording of a time has no letters. -/
theorem not_mem_text {time : TimeOfDay} {letter : Char} (other : letter ≠ ':')
    (proper : letter.isDigit = false) : letter ∉ time.text.toList := by
  have inside (number : Nat) : letter ∉ (Text.twoDigits number).toList := fun written =>
    Bool.false_ne_true (proper.symm.trans (Text.isDigit_of_mem_twoDigits written))
  simp [text, String.toList_append, inside, other]

end TimeOfDay

/-- The fields in which a requested policy is compared with the reported one. -/
inductive PolicyField where
  /-- The name of the time machine. -/
  | name
  /-- What it is for. -/
  | description
  /-- The name of the service level. -/
  | slaName
  /-- The time of day of the daily snapshot. -/
  | dailySnapshotTime
  /-- How many snapshots are taken a day. -/
  | snapshotsPerDay
  /-- How many minutes lie between two copies of the log. -/
  | logCatchUpFrequency
  /-- The day of the weekly snapshot. -/
  | weeklySnapshotDay
  /-- The day of the month of the monthly snapshot. -/
  | monthlySnapshotDay
  deriving DecidableEq, Repr

namespace PolicyField

/-- All fields in the order of comparison. -/
def all : List PolicyField :=
  [name, description, slaName, dailySnapshotTime, snapshotsPerDay, logCatchUpFrequency,
    weeklySnapshotDay, monthlySnapshotDay]

/-- The name of the field in a request. -/
def key : PolicyField → String
  | name => "name"
  | description => "description"
  | slaName => "slaName"
  | dailySnapshotTime => "dailySnapshotTime"
  | snapshotsPerDay => "snapshotsPerDay"
  | logCatchUpFrequency => "logCatchUpFrequency"
  | weeklySnapshotDay => "weeklySnapshotDay"
  | monthlySnapshotDay => "monthlySnapshotDay"

/-- The values that can be requested. -/
abbrev Requested : PolicyField → Type
  | name | description | slaName | dailySnapshotTime | weeklySnapshotDay => String
  | snapshotsPerDay | logCatchUpFrequency | monthlySnapshotDay => UInt32

/-- The values that can be reported. -/
abbrev Reported : PolicyField → Type
  | name | description | slaName | weeklySnapshotDay => String
  | dailySnapshotTime => TimeOfDay
  | snapshotsPerDay | logCatchUpFrequency | monthlySnapshotDay => UInt32

/-- The value that a policy requests. -/
def requested : (field : PolicyField) → BackupPolicy → field.Requested
  | name, policy => policy.name
  | description, policy => policy.description
  | slaName, policy => policy.slaName
  | dailySnapshotTime, policy => policy.dailySnapshotTime
  | snapshotsPerDay, policy => policy.snapshotsPerDay
  | logCatchUpFrequency, policy => policy.logCatchUpFrequency
  | weeklySnapshotDay, policy => policy.weeklySnapshotDay
  | monthlySnapshotDay, policy => policy.monthlySnapshotDay

/-- The value that is reported of a policy. -/
def reported : (field : PolicyField) → ReportedPolicy → field.Reported
  | name, policy => policy.name
  | description, policy => policy.description
  | slaName, policy => policy.slaName
  | dailySnapshotTime, policy => policy.snapshotTimeOfDay
  | snapshotsPerDay, policy => policy.continuous.snapshotsPerDay
  | logCatchUpFrequency, policy => policy.continuous.logBackupInterval
  | weeklySnapshotDay, policy => policy.weekly.dayOfWeek
  | monthlySnapshotDay, policy => policy.monthly.dayOfMonth

/-- Whether a reported value is the requested one. -/
def Agrees : (field : PolicyField) → field.Requested → field.Reported → Prop
  | name, wanted, found | description, wanted, found | slaName, wanted, found
  | weeklySnapshotDay, wanted, found => wanted = found
  | dailySnapshotTime, wanted, found => TimeOfDay.parse? wanted = some found
  | snapshotsPerDay, wanted, found | logCatchUpFrequency, wanted, found
  | monthlySnapshotDay, wanted, found => wanted = found

instance : (field : PolicyField) → (wanted : field.Requested) → (found : field.Reported) →
    Decidable (field.Agrees wanted found)
  | name, wanted, found | description, wanted, found | slaName, wanted, found
  | weeklySnapshotDay, wanted, found => inferInstanceAs (Decidable (wanted = found))
  | dailySnapshotTime, wanted, found =>
    inferInstanceAs (Decidable (TimeOfDay.parse? wanted = some found))
  | snapshotsPerDay, wanted, found | logCatchUpFrequency, wanted, found
  | monthlySnapshotDay, wanted, found => inferInstanceAs (Decidable (wanted = found))

/-- The wording of a requested value. -/
def expected : (field : PolicyField) → field.Requested → String
  | name, wanted | description, wanted | slaName, wanted | weeklySnapshotDay, wanted => wanted
  | dailySnapshotTime, wanted =>
    match TimeOfDay.parse? wanted with
    | some time => time.text
    | none => "a valid HH:MM:SS time (requested '" ++ wanted ++ "')"
  | snapshotsPerDay, wanted | logCatchUpFrequency, wanted | monthlySnapshotDay, wanted =>
    toString wanted.toNat

/-- The wording of a reported value. -/
def got : (field : PolicyField) → field.Reported → String
  | name, found | description, found | slaName, found | weeklySnapshotDay, found => found
  | dailySnapshotTime, found => found.text
  | snapshotsPerDay, found | logCatchUpFrequency, found | monthlySnapshotDay, found =>
    toString found.toNat

/-- Values are worded alike exactly when they agree. -/
theorem expected_eq_got_iff (field : PolicyField) (wanted : field.Requested)
    (found : field.Reported) : field.expected wanted = field.got found ↔ field.Agrees wanted found := by
  cases field with
  | name | description | slaName | weeklySnapshotDay => exact Iff.rfl
  | snapshotsPerDay | logCatchUpFrequency | monthlySnapshotDay =>
    show toString wanted.toNat = toString found.toNat ↔ wanted = found
    rw [Text.toString_inj, UInt32.toNat_inj]
  | dailySnapshotTime =>
    simp only [expected, got, Agrees]
    cases parsed : TimeOfDay.parse? wanted with
    | some time => simp only [TimeOfDay.text_inj, Option.some.injEq]
    | none =>
      -- The wording for a text that is no time has letters.
      refine iff_of_false (fun same => ?_) (fun held => nomatch held)
      have letter : 'a' ∈ found.text.toList := by
        rw [← same]
        simp
      exact TimeOfDay.not_mem_text (by decide) (by decide) letter

/-- The comparison of a field: its name with the wordings of both values. -/
def comparison (field : PolicyField) (wanted : field.Requested) (found : field.Reported) : Mismatch :=
  ⟨field.key, field.expected wanted, field.got found⟩

/-- A comparison shows two wordings exactly when the values do not agree. -/
theorem comparison_differs (field : PolicyField) (wanted : field.Requested)
    (found : field.Reported) : ((field.comparison wanted found).expected
      != (field.comparison wanted found).got) = decide (¬ field.Agrees wanted found) := by
  have alike := field.expected_eq_got_iff wanted found
  by_cases agree : field.Agrees wanted found
  · simp [comparison, agree, alike.mpr agree]
  · simp [comparison, agree, mt alike.mp agree]

end PolicyField

namespace BackupPolicy

open PolicyField

variable (requested : BackupPolicy) (reported : ReportedPolicy)

/-- The fields are compared one after another. -/
theorem comparisons_eq : requested.comparisons reported = all.map fun field =>
    field.comparison (field.requested requested) (field.reported reported) := rfl

/-- The fields in which a reported policy is not the requested one. -/
def disagreements : List PolicyField :=
  all.filter fun field => ¬ field.Agrees (field.requested requested) (field.reported reported)

/-- The mismatches are the comparisons of the fields that disagree. -/
theorem mismatches_eq : requested.mismatches reported
    = (requested.disagreements reported).map fun field =>
      field.comparison (field.requested requested) (field.reported reported) := by
  rw [mismatches, comparisons_eq, List.filter_map, disagreements]
  congr 2
  funext field
  exact field.comparison_differs _ _

/-- A policy is refused with all mismatches, if there are any. -/
theorem validate_eq : requested.validate reported = if requested.disagreements reported = [] then .ok ()
    else .error (.scheduleMismatch (requested.mismatches reported)) := by
  have empty : (requested.mismatches reported).isEmpty = true ↔
      requested.disagreements reported = [] := by
    rw [mismatches_eq, List.isEmpty_iff, List.map_eq_nil_iff]
  simp only [← empty]
  rfl

/-- No field disagrees exactly when every field agrees. -/
theorem disagreements_eq_nil_iff : requested.disagreements reported = [] ↔
    ∀ field : PolicyField, field.Agrees (field.requested requested) (field.reported reported) := by
  have listed (field : PolicyField) : field ∈ all := by cases field <;> decide
  simp [disagreements, listed]

/-- A policy is accepted exactly when all fields agree. -/
theorem validate_eq_ok_iff : requested.validate reported = .ok () ↔
    ∀ field : PolicyField, field.Agrees (field.requested requested) (field.reported reported) := by
  rw [validate_eq, ← disagreements_eq_nil_iff]
  by_cases none : requested.disagreements reported = [] <;> simp [none]

/-- Under the name of a field stands nothing when the field agrees, and otherwise one mismatch with
the wordings of its own two values. -/
theorem filter_mismatches (field : PolicyField) :
    (requested.mismatches reported).filter (·.field == field.key)
      = if field.Agrees (field.requested requested) (field.reported reported) then []
        else [field.comparison (field.requested requested) (field.reported reported)] := by
  -- Among all comparisons only one has this name; what is left is whether it is a mismatch.
  have only : (requested.comparisons reported).filter (·.field == field.key)
      = [field.comparison (field.requested requested) (field.reported reported)] := by
    cases field <;> rfl
  rw [mismatches, List.filter_filter]
  simp only [Bool.and_comm (_ == _)]
  rw [← List.filter_filter, only, List.filter_cons, field.comparison_differs, List.filter_nil]
  by_cases agree : field.Agrees (field.requested requested) (field.reported reported) <;>
    simp [agree]

/-- The mismatches are exactly the fields whose values differ, in the order of comparison; what is
said of a field depends on its own values alone. A policy is accepted exactly when all fields agree,
and otherwise refused with all mismatches. -/
theorem mismatches_are_disagreements :
    requested.mismatches reported = (requested.disagreements reported).map (fun field =>
        field.comparison (field.requested requested) (field.reported reported))
      ∧ (∀ field : PolicyField, (requested.mismatches reported).filter (·.field == field.key)
        = if field.Agrees (field.requested requested) (field.reported reported) then []
          else [field.comparison (field.requested requested) (field.reported reported)])
      ∧ (requested.validate reported = .ok () ↔ ∀ field : PolicyField,
          field.Agrees (field.requested requested) (field.reported reported))
      ∧ requested.validate reported = if requested.disagreements reported = [] then .ok ()
        else .error (.scheduleMismatch (requested.mismatches reported)) :=
  ⟨requested.mismatches_eq reported, requested.filter_mismatches reported,
    requested.validate_eq_ok_iff reported, requested.validate_eq reported⟩

/-- Whether a request names midnight for the daily snapshot and asks for nothing else. -/
def AsksEmptySchedule (requested : BackupPolicy) : Prop :=
  TimeOfDay.parse? requested.dailySnapshotTime = some {} ∧ requested.snapshotsPerDay = 0
    ∧ requested.logCatchUpFrequency = 0 ∧ requested.weeklySnapshotDay = ""
    ∧ requested.monthlySnapshotDay = 0

/-- A policy is accepted exactly when every value is the requested one. -/
theorem validate_eq_ok_iff_values : requested.validate reported = .ok () ↔
    requested.name = reported.name ∧ requested.description = reported.description
      ∧ requested.slaName = reported.slaName
      ∧ TimeOfDay.parse? requested.dailySnapshotTime = some reported.snapshotTimeOfDay
      ∧ requested.snapshotsPerDay = reported.continuous.snapshotsPerDay
      ∧ requested.logCatchUpFrequency = reported.continuous.logBackupInterval
      ∧ requested.weeklySnapshotDay = reported.weekly.dayOfWeek
      ∧ requested.monthlySnapshotDay = reported.monthly.dayOfMonth := by
  rw [validate_eq_ok_iff]
  constructor
  · intro agree
    exact ⟨agree .name, agree .description, agree .slaName, agree .dailySnapshotTime,
      agree .snapshotsPerDay, agree .logCatchUpFrequency, agree .weeklySnapshotDay,
      agree .monthlySnapshotDay⟩
  · rintro ⟨name, description, slaName, time, perDay, frequency, weekly, monthly⟩ field
    cases field <;> assumption

variable {requested}

/-- A request for backups has a service level with a name. -/
theorem slaName_ne_empty (backups : requested.requestsBackups = true) : requested.slaName ≠ "" := by
  intro empty
  simp [requestsBackups, noBackupNames, empty] at backups

/-- A time machine whose service level or schedule was not loaded is refused with mismatches, unless
only the schedule is missing and the request asks for an empty one and agrees with what was loaded. -/
theorem unloaded_accepted_iff {machine : TimeMachine} (backups : requested.requestsBackups = true)
    (unloaded : machine.sla = none ∨ machine.schedule = none) :
    (requested.validate machine.policy = .ok () ↔
        machine.schedule = none ∧ requested.AsksEmptySchedule
          ∧ requested.name = machine.name ∧ requested.description = machine.description
          ∧ ∃ level, machine.sla = some level ∧ requested.slaName = level.name)
      ∧ (requested.validate machine.policy = .ok ()
        ∨ ∃ mismatches, mismatches ≠ []
          ∧ requested.validate machine.policy = .error (.scheduleMismatch mismatches)) := by
  constructor
  · rw [validate_eq_ok_iff_values]
    obtain ⟨id, name, description, slaId, scheduleId, sla, schedule⟩ := machine
    cases sla with
    | none =>
      -- The empty name that stands for the service level was not requested.
      refine iff_of_false ?_ ?_
      · rintro ⟨-, -, named, -⟩
        exact slaName_ne_empty backups named
      · rintro ⟨-, -, -, -, level, loaded, -⟩
        exact nomatch loaded
    | some level =>
      -- So the schedule is missing, and each of its values counts as nothing.
      obtain rfl : schedule = none := unloaded.resolve_left (by simp)
      constructor
      · rintro ⟨named, described, level_named, time, perDay, frequency, weekly, monthly⟩
        exact ⟨rfl, ⟨time, perDay, frequency, weekly, monthly⟩, named, described, level, rfl,
          level_named⟩
      · rintro ⟨-, ⟨time, perDay, frequency, weekly, monthly⟩, named, described, other, loaded,
          level_named⟩
        obtain rfl : level = other := Option.some.inj loaded
        exact ⟨named, described, level_named, time, perDay, frequency, weekly, monthly⟩
  · rw [validate_eq]
    by_cases none : requested.disagreements machine.policy = []
    · exact .inl (if_pos none)
    · -- Each field that disagrees is a mismatch.
      refine .inr ⟨requested.mismatches machine.policy, fun empty => none ?_, if_neg none⟩
      rw [mismatches_eq] at empty
      exact List.map_eq_nil_iff.mp empty

/-- A request for a snapshot at midnight and nothing else, under a service level that was loaded. -/
theorem unloaded_accepted_iff_midnight :
    let requested : BackupPolicy :=
      { name := "orders_TM", slaName := "GOLD", dailySnapshotTime := "00:00:00" }
    let machine : TimeMachine :=
      { id := "tm-1", name := "orders_TM", sla := some { id := "sla-1", name := "GOLD" } }
    requested.requestsBackups = true ∧ (machine.sla = none ∨ machine.schedule = none)
      ∧ requested.validate machine.policy = .ok () := by
  refine ⟨by decide, .inr rfl, (unloaded_accepted_iff ?_ ?_).1.mpr ⟨rfl, ?_, rfl, rfl, _, rfl, rfl⟩⟩
  · decide
  · exact .inr rfl
  · exact ⟨by decide, rfl, rfl, rfl, rfl⟩

/-- Not every time machine without a schedule is refused. -/
theorem unloaded_schedule_accepted : ¬ ∀ (requested : BackupPolicy) (machine : TimeMachine),
    requested.requestsBackups = true → (machine.sla = none ∨ machine.schedule = none) →
      ∃ mismatches, requested.validate machine.policy = .error (.scheduleMismatch mismatches) := by
  intro refused
  -- Midnight is what an unreported time of day counts as.
  let requested : BackupPolicy :=
    { name := "orders_TM", slaName := "GOLD", dailySnapshotTime := "00:00:00" }
  let machine : TimeMachine :=
    { id := "tm-1", name := "orders_TM", sla := some { id := "sla-1", name := "GOLD" } }
  have accepted : requested.validate machine.policy = .ok () :=
    (validate_eq_ok_iff_values requested machine.policy).mpr
      ⟨rfl, rfl, rfl, by decide, rfl, rfl, rfl, rfl⟩
  obtain ⟨mismatches, error⟩ := refused requested machine (by decide) (.inr rfl)
  rw [accepted] at error
  exact nomatch error

end BackupPolicy

end DatabaseLifecycle

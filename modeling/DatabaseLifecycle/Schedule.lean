import DatabaseLifecycle.ControlPlane.TimeMachine
import DatabaseLifecycle.Resource.Database
import DatabaseLifecycle.Text.Digits

/-!
Comparison of a requested backup policy with the reported one. Every field is compared on its own,
so that all differences are found at once.
-/

namespace DatabaseLifecycle

/-- The number that a text of digits writes, when it is at most the limit. -/
def boundedNumber? (limit : Nat) (digits : List Char) : Option UInt32 :=
  ((Text.natural? digits).filter (· ≤ limit)).map (·.toUInt32)

namespace TimeOfDay

/-- The time of day that a text writes: three numbers with colons between them, and blanks around.
-/
def parse? (text : String) : Option TimeOfDay :=
  match (Text.trimmed text.toList).splitOn ':' with
  | [hours, minutes, seconds] => do
    return {
      hours := ← boundedNumber? 23 hours
      minutes := ← boundedNumber? 59 minutes
      seconds := ← boundedNumber? 59 seconds }
  | _ => none

end TimeOfDay

namespace BackupPolicy

/-- The time of the daily snapshot in the form of a reported one, or a text that is no time. -/
def expectedTime (requested : BackupPolicy) : String :=
  match TimeOfDay.parse? requested.dailySnapshotTime with
  | some time => time.text
  | none => "a valid HH:MM:SS time (requested '" ++ requested.dailySnapshotTime ++ "')"

/-- Each field's name with its requested and its reported value. -/
def comparisons (requested : BackupPolicy) (reported : ReportedPolicy) : List Mismatch :=
  let number (value : UInt32) : String := toString value.toNat
  [⟨"name", requested.name, reported.name⟩,
    ⟨"description", requested.description, reported.description⟩,
    ⟨"slaName", requested.slaName, reported.slaName⟩,
    ⟨"dailySnapshotTime", requested.expectedTime, reported.snapshotTimeOfDay.text⟩,
    ⟨"snapshotsPerDay", number requested.snapshotsPerDay,
      number reported.continuous.snapshotsPerDay⟩,
    ⟨"logCatchUpFrequency", number requested.logCatchUpFrequency,
      number reported.continuous.logBackupInterval⟩,
    ⟨"weeklySnapshotDay", requested.weeklySnapshotDay, reported.weekly.dayOfWeek⟩,
    ⟨"monthlySnapshotDay", number requested.monthlySnapshotDay,
      number reported.monthly.dayOfMonth⟩]

/-- Every field whose reported value is not the requested one. -/
def mismatches (requested : BackupPolicy) (reported : ReportedPolicy) : List Mismatch :=
  (requested.comparisons reported).filter fun field => field.expected != field.got

/-- Refuses a reported policy that differs from the requested one. -/
def validate (requested : BackupPolicy) (reported : ReportedPolicy) : Except Error Unit :=
  let mismatches := requested.mismatches reported
  if mismatches.isEmpty then .ok () else .error (.scheduleMismatch mismatches)

end BackupPolicy

end DatabaseLifecycle

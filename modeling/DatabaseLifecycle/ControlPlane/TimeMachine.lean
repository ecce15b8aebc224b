import DatabaseLifecycle.Document.Record
import DatabaseLifecycle.Text.Padded

/-!
Time machines: recurring backups of a database as the control plane reports them, and the view of
one that a requested policy is compared with.
-/

namespace DatabaseLifecycle

/-- A time of day. -/
structure TimeOfDay where
  /-- The hour. -/
  hours : UInt32 := 0
  /-- The minute of the hour. -/
  minutes : UInt32 := 0
  /-- The second of the minute. -/
  seconds : UInt32 := 0
  deriving DecidableEq, Repr, Inhabited

/-- Continuous copies of the log. -/
structure ContinuousSchedule where
  /-- Whether copies are made. -/
  enabled : Bool := false
  /-- How many minutes lie between two copies. -/
  logBackupInterval : UInt32 := 0
  /-- How many snapshots are taken a day. -/
  snapshotsPerDay : UInt32 := 0
  deriving DecidableEq, Repr, Inhabited

/-- Weekly snapshots. -/
structure WeeklySchedule where
  /-- Whether snapshots are taken. -/
  enabled : Bool := false
  /-- The day of the week. -/
  dayOfWeek : String := ""
  deriving DecidableEq, Repr, Inhabited

/-- Monthly snapshots. -/
structure MonthlySchedule where
  /-- Whether snapshots are taken. -/
  enabled : Bool := false
  /-- The day of the month. -/
  dayOfMonth : UInt32 := 0
  deriving DecidableEq, Repr, Inhabited

/-- When a time machine takes its snapshots. -/
structure Schedule where
  /-- The control plane's name for the schedule. -/
  id : String := ""
  /-- Its own name. -/
  name : String := ""
  /-- The time of day of the daily snapshot. -/
  snapshotTimeOfDay : TimeOfDay := {}
  /-- The continuous copies. -/
  continuous : ContinuousSchedule := {}
  /-- The weekly snapshots. -/
  weekly : WeeklySchedule := {}
  /-- The monthly snapshots. -/
  monthly : MonthlySchedule := {}
  deriving DecidableEq, Repr, Inhabited

/-- A service level. -/
structure ServiceLevel where
  /-- The control plane's name for it. -/
  id : String := ""
  /-- Its own name. -/
  name : String := ""
  deriving DecidableEq, Repr, Inhabited

/-- A time machine. -/
structure TimeMachine where
  /-- The control plane's name for it. -/
  id : String
  /-- Its own name. -/
  name : String := ""
  /-- What it is for. -/
  description : String := ""
  /-- The service level attached to it. -/
  slaId : String := ""
  /-- The schedule attached to it. -/
  scheduleId : String := ""
  /-- The service level, when it is reported too. -/
  sla : Option ServiceLevel := none
  /-- The schedule, when it is reported too. -/
  schedule : Option Schedule := none
  deriving DecidableEq, Repr, Inhabited

/-- The reported policy, in the terms of a requested one. -/
structure ReportedPolicy where
  /-- The name of the time machine. -/
  name : String := ""
  /-- What it is for. -/
  description : String := ""
  /-- The name of the service level. -/
  slaName : String := ""
  /-- The time of day of the daily snapshot. -/
  snapshotTimeOfDay : TimeOfDay := {}
  /-- The continuous copies. -/
  continuous : ContinuousSchedule := {}
  /-- The weekly snapshots. -/
  weekly : WeeklySchedule := {}
  /-- The monthly snapshots. -/
  monthly : MonthlySchedule := {}
  deriving DecidableEq, Repr, Inhabited

namespace TimeOfDay

/-- The time as hours, minutes and seconds of at least two digits with colons between them. -/
def text (time : TimeOfDay) : String :=
  Text.twoDigits time.hours.toNat ++ ":" ++ Text.twoDigits time.minutes.toNat ++ ":"
    ++ Text.twoDigits time.seconds.toNat

/-- A time of day as it is read. -/
def read? {ν : Type} [Source ν] (value : ν) : Option TimeOfDay := do
  let record ← Record.read? ["hours", "minutes", "seconds"] value
  return {
    hours := ← record.required? "hours" Source.natural32?
    minutes := ← record.required? "minutes" Source.natural32?
    seconds := ← record.required? "seconds" Source.natural32? }

/-- A time of day as it is written. -/
def write (time : TimeOfDay) : Document :=
  .object [
    ("hours", .integer time.hours.toNat),
    ("minutes", .integer time.minutes.toNat),
    ("seconds", .integer time.seconds.toNat)]

end TimeOfDay

namespace ContinuousSchedule

/-- Continuous copies as they are read. -/
def read? {ν : Type} [Source ν] (value : ν) : Option ContinuousSchedule := do
  let record ← Record.read? ["enabled", "logBackupInterval", "snapshotsPerDay"] value
  return {
    enabled := ← record.orDefault? "enabled" false Source.bool?
    logBackupInterval := ← record.orDefault? "logBackupInterval" 0 Source.natural32?
    snapshotsPerDay := ← record.orDefault? "snapshotsPerDay" 0 Source.natural32? }

/-- Continuous copies as they are written. -/
def write (schedule : ContinuousSchedule) : Document :=
  .object [
    ("enabled", .bool schedule.enabled),
    ("logBackupInterval", .integer schedule.logBackupInterval.toNat),
    ("snapshotsPerDay", .integer schedule.snapshotsPerDay.toNat)]

end ContinuousSchedule

namespace WeeklySchedule

/-- Weekly snapshots as they are read. -/
def read? {ν : Type} [Source ν] (value : ν) : Option WeeklySchedule := do
  let record ← Record.read? ["enabled", "dayOfWeek"] value
  return {
    enabled := ← record.orDefault? "enabled" false Source.bool?
    dayOfWeek := ← record.orDefault? "dayOfWeek" "" Source.text? }

/-- Weekly snapshots as they are written. -/
def write (schedule : WeeklySchedule) : Document :=
  .object [("enabled", .bool schedule.enabled), ("dayOfWeek", .text schedule.dayOfWeek)]

end WeeklySchedule

namespace MonthlySchedule

/-- Monthly snapshots as they are read. -/
def read? {ν : Type} [Source ν] (value : ν) : Option MonthlySchedule := do
  let record ← Record.read? ["enabled", "dayOfMonth"] value
  return {
    enabled := ← record.orDefault? "enabled" false Source.bool?
    dayOfMonth := ← record.orDefault? "dayOfMonth" 0 Source.natural32? }

/-- Monthly snapshots as they are written. -/
def write (schedule : MonthlySchedule) : Document :=
  .object [
    ("enabled", .bool schedule.enabled),
    ("dayOfMonth", .integer schedule.dayOfMonth.toNat)]

end MonthlySchedule

namespace Schedule

/-- A schedule as it is read. -/
def read? {ν : Type} [Source ν] (value : ν) : Option Schedule := do
  let record ← Record.read? ["id", "name", "snapshotTimeOfDay", "continuousSchedule",
    "weeklySchedule", "monthlySchedule"] value
  return {
    id := ← record.orDefault? "id" "" Source.text?
    name := ← record.orDefault? "name" "" Source.text?
    snapshotTimeOfDay := ← record.orDefault? "snapshotTimeOfDay" {} TimeOfDay.read?
    continuous := ← record.orDefault? "continuousSchedule" {} ContinuousSchedule.read?
    weekly := ← record.orDefault? "weeklySchedule" {} WeeklySchedule.read?
    monthly := ← record.orDefault? "monthlySchedule" {} MonthlySchedule.read? }

/-- A schedule as it is written. -/
def write (schedule : Schedule) : Document :=
  .object [
    ("id", .text schedule.id),
    ("name", .text schedule.name),
    ("snapshotTimeOfDay", schedule.snapshotTimeOfDay.write),
    ("continuousSchedule", schedule.continuous.write),
    ("weeklySchedule", schedule.weekly.write),
    ("monthlySchedule", schedule.monthly.write)]

end Schedule

namespace ServiceLevel

/-- A service level as it is read. -/
def read? {ν : Type} [Source ν] (value : ν) : Option ServiceLevel := do
  let record ← Record.read? ["id", "name"] value
  return {
    id := ← record.orDefault? "id" "" Source.text?
    name := ← record.orDefault? "name" "" Source.text? }

/-- A service level as it is written. -/
def write (level : ServiceLevel) : Document :=
  .object [("id", .text level.id), ("name", .text level.name)]

end ServiceLevel

namespace TimeMachine

/-- A time machine as it is read. -/
def read? {ν : Type} [Source ν] (value : ν) : Option TimeMachine := do
  let record ← Record.read?
    ["id", "name", "description", "slaId", "scheduleId", "sla", "schedule"] value
  return {
    id := ← record.required? "id" Source.text?
    name := ← record.orDefault? "name" "" Source.text?
    description := ← record.orDefault? "description" "" Source.text?
    slaId := ← record.orDefault? "slaId" "" Source.text?
    scheduleId := ← record.orDefault? "scheduleId" "" Source.text?
    sla := ← record.optional? "sla" ServiceLevel.read?
    schedule := ← record.optional? "schedule" Schedule.read? }

/-- A time machine as it is written. -/
def write (machine : TimeMachine) : Document :=
  .object [
    ("id", .text machine.id),
    ("name", .text machine.name),
    ("description", .text machine.description),
    ("slaId", .text machine.slaId),
    ("scheduleId", .text machine.scheduleId),
    ("sla", (machine.sla.map ServiceLevel.write).getD .null),
    ("schedule", (machine.schedule.map Schedule.write).getD .null)]

/-- The reported policy. A service level or schedule that is not reported counts as empty. -/
def policy (machine : TimeMachine) : ReportedPolicy :=
  let schedule := machine.schedule.getD {}
  { name := machine.name
    description := machine.description
    slaName := (machine.sla.map ServiceLevel.name).getD ""
    snapshotTimeOfDay := schedule.snapshotTimeOfDay
    continuous := schedule.continuous
    weekly := schedule.weekly
    monthly := schedule.monthly }

end TimeMachine

end DatabaseLifecycle

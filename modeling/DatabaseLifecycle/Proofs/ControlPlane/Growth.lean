import DatabaseLifecycle.ControlPlane.Client
import DatabaseLifecycle.Proofs.Document.Growth
import DatabaseLifecycle.Schedule

/-!
Answers of the control plane that grow. Wherever an object stands for a part of an answer, it may get
members that this part does not declare; the answer is then read as before, and so is everything that
is made of it.
-/

namespace DatabaseLifecycle

namespace ManagedDatabase

/-- A managed database that grows. -/
def growth : Growth := GrownRecord (leaves
  ["id", "name", "description", "status", "type", "timeMachineId", "clone"])

/-- A managed database is read as before. -/
theorem unmoved : Unmoved growth read? := Unmoved.flat _ _

end ManagedDatabase

namespace TimeOfDay

/-- A time of day that grows. -/
def growth : Growth := GrownRecord (leaves ["hours", "minutes", "seconds"])

/-- A time of day is read as before. -/
theorem unmoved : Unmoved growth read? := Unmoved.flat _ _

end TimeOfDay

namespace ContinuousSchedule

/-- Continuous copies that grow. -/
def growth : Growth := GrownRecord (leaves ["enabled", "logBackupInterval", "snapshotsPerDay"])

/-- Continuous copies are read as before. -/
theorem unmoved : Unmoved growth read? := Unmoved.flat _ _

end ContinuousSchedule

namespace WeeklySchedule

/-- Weekly snapshots that grow. -/
def growth : Growth := GrownRecord (leaves ["enabled", "dayOfWeek"])

/-- Weekly snapshots are read as before. -/
theorem unmoved : Unmoved growth read? := Unmoved.flat _ _

end WeeklySchedule

namespace MonthlySchedule

/-- Monthly snapshots that grow. -/
def growth : Growth := GrownRecord (leaves ["enabled", "dayOfMonth"])

/-- Monthly snapshots are read as before. -/
theorem unmoved : Unmoved growth read? := Unmoved.flat _ _

end MonthlySchedule

namespace Schedule

/-- The fields of a schedule, with how their values grow. -/
def members : List (String × Growth) :=
  leaves ["id", "name"] ++ [("snapshotTimeOfDay", TimeOfDay.growth),
    ("continuousSchedule", ContinuousSchedule.growth), ("weeklySchedule", WeeklySchedule.growth),
    ("monthlySchedule", MonthlySchedule.growth)]

/-- A schedule that grows. -/
def growth : Growth := GrownRecord members

/-- A schedule is read as before. -/
theorem unmoved : Unmoved growth read? :=
  Unmoved.record fun record larger (grown : GrownGiven members record larger) => by
    rw [grown.orDefault? "id" "" rfl (.same _), grown.orDefault? "name" "" rfl (.same _),
      grown.orDefault? "snapshotTimeOfDay" {} rfl TimeOfDay.unmoved,
      grown.orDefault? "continuousSchedule" {} rfl ContinuousSchedule.unmoved,
      grown.orDefault? "weeklySchedule" {} rfl WeeklySchedule.unmoved,
      grown.orDefault? "monthlySchedule" {} rfl MonthlySchedule.unmoved]

end Schedule

namespace ServiceLevel

/-- A service level that grows. -/
def growth : Growth := GrownRecord (leaves ["id", "name"])

/-- A service level is read as before. -/
theorem unmoved : Unmoved growth read? := Unmoved.flat _ _

end ServiceLevel

namespace TimeMachine

/-- The fields of a time machine, with how their values grow. -/
def members : List (String × Growth) :=
  leaves ["id", "name", "description", "slaId", "scheduleId"]
    ++ [("sla", ServiceLevel.growth), ("schedule", Schedule.growth)]

/-- A time machine that grows. -/
def growth : Growth := GrownRecord members

/-- A time machine is read as before. -/
theorem unmoved : Unmoved growth read? :=
  Unmoved.record fun record larger (grown : GrownGiven members record larger) => by
    rw [grown.required? "id" rfl (.same _), grown.orDefault? "name" "" rfl (.same _),
      grown.orDefault? "description" "" rfl (.same _), grown.orDefault? "slaId" "" rfl (.same _),
      grown.orDefault? "scheduleId" "" rfl (.same _),
      grown.optional? "sla" rfl ServiceLevel.unmoved .isAbsent?,
      grown.optional? "schedule" rfl Schedule.unmoved .isAbsent?]

end TimeMachine

namespace Snapshot

/-- A snapshot that grows. -/
def growth : Growth := GrownRecord (leaves ["id", "name"])

/-- A snapshot is read as before. -/
theorem unmoved : Unmoved growth read? := Unmoved.flat _ _

end Snapshot

namespace SnapshotGroup

/-- The fields of a group, with how their values grow. -/
def members : List (String × Growth) := [("snapshots", GrownList Snapshot.growth)]

/-- A group of snapshots that grows. -/
def growth : Growth := GrownRecord members

/-- A group of snapshots is read as before. -/
theorem unmoved : Unmoved growth read? :=
  Unmoved.record fun record larger (grown : GrownGiven members record larger) => by
    rw [grown.orDefault? "snapshots" [] rfl Snapshot.unmoved.list]

end SnapshotGroup

namespace SnapshotCatalog

/-- The fields of a catalog, with how their values grow. The keys of the table are clusters, and no
cluster is added. -/
def members : List (String × Growth) :=
  [("snapshotsPerCluster", GrownTable (GrownList SnapshotGroup.growth))]

/-- A catalog that grows. -/
def growth : Growth := GrownRecord members

/-- A catalog is read as before. -/
theorem unmoved : Unmoved growth read? :=
  Unmoved.record fun record larger (grown : GrownGiven members record larger) => by
    rw [grown.orDefault? "snapshotsPerCluster" .empty rfl
      (SnapshotGroup.unmoved.list.entries.map Table.ofList)]

end SnapshotCatalog

namespace Lookup

/-- How the answer to a lookup grows. -/
def growth : Lookup → Growth
  | database _ | databaseNamed _ | clone _ => ManagedDatabase.growth
  | timeMachine _ => TimeMachine.growth
  | snapshots _ => SnapshotCatalog.growth

/-- What is looked up is read as before. -/
theorem unmoved (wanted : Lookup) : Unmoved wanted.growth wanted.read? := by
  cases wanted with
  | database | databaseNamed | clone => exact ManagedDatabase.unmoved
  | timeMachine => exact TimeMachine.unmoved
  | snapshots => exact SnapshotCatalog.unmoved

end Lookup

namespace ControlPlane

/-- A successful answer that has grown says the same about a lookup. -/
theorem found_grown {wanted : Lookup} {status : UInt16} {body more : List UInt8}
    {document larger : Document} (success : Http.isSuccess status = true)
    (before : Json.readBytes body = some document) (after : Json.readBytes more = some larger)
    (grown : wanted.growth document larger) :
    found wanted (.ok ⟨status, more⟩) = found wanted (.ok ⟨status, body⟩) := by
  -- A refusal would quote the body, but of a success only the document counts.
  simp only [found, success, before, after, Option.bind_eq_bind, Option.bind_some,
    wanted.unmoved document larger grown, reduceIte]

/-- Answers may grow. Objects in them that stand for a database, a time machine, a snapshot catalog
or any part of these may get members with keys that are not declared there, each with any value. The
answer is then read as the same value as before, or as none if it was none. So the reported policy
stays the same, and with it the comparison with any requested one, and the same snapshot is selected
for every cluster. A client that gets the larger answer finds what it would have found. -/
theorem answers_may_grow (document larger : Document) :
    (ManagedDatabase.growth document larger →
        ManagedDatabase.read? larger = ManagedDatabase.read? document)
      ∧ (TimeMachine.growth document larger →
        TimeMachine.read? larger = TimeMachine.read? document
          ∧ (TimeMachine.read? larger).map TimeMachine.policy
            = (TimeMachine.read? document).map TimeMachine.policy
          ∧ ∀ requested : BackupPolicy,
            (TimeMachine.read? larger).map (fun machine => requested.validate machine.policy)
              = (TimeMachine.read? document).map fun machine => requested.validate machine.policy)
      ∧ (SnapshotCatalog.growth document larger →
        SnapshotCatalog.read? larger = SnapshotCatalog.read? document
          ∧ ∀ cluster, (SnapshotCatalog.read? larger).map (·.select cluster)
            = (SnapshotCatalog.read? document).map (·.select cluster))
      ∧ ∀ (wanted : Lookup) (status : UInt16) (body more : List UInt8),
        Http.isSuccess status = true → Json.readBytes body = some document →
          Json.readBytes more = some larger → wanted.growth document larger →
            found wanted (.ok ⟨status, more⟩) = found wanted (.ok ⟨status, body⟩) := by
  refine ⟨ManagedDatabase.unmoved document larger, ?machine, ?catalog, ?client⟩
  case machine =>
    intro grown
    have same := TimeMachine.unmoved document larger grown
    refine ⟨same, ?_, fun requested => ?_⟩ <;> rw [same]
  case catalog =>
    intro grown
    have same := SnapshotCatalog.unmoved document larger grown
    refine ⟨same, fun cluster => ?_⟩
    rw [same]
  case client =>
    intro wanted status body more success before after grown
    exact found_grown success before after grown

/-- A report of a time machine with a schedule. -/
def weeklyReport : Document :=
  .object [("id", .text "tm-1"), ("schedule", .object [("weeklySchedule",
    .object [("enabled", .bool true), ("dayOfWeek", .text "WEDNESDAY")])])]

/-- The report with more members, inside as well as outside, some of them close to declared ones. -/
def quarterlyReport : Document :=
  .object [("sla_id", .integer 7), ("id", .text "tm-1"), ("schedule", .object [
    ("quarterlySchedule", .object [("enabled", .bool true)]), ("weeklySchedule",
    .object [("enabled", .bool true), ("Enabled", .null), ("dayOfWeek", .text "WEDNESDAY")])]),
    ("SLA", .list [])]

/-- The report grows, from the schedule's weekly part outwards. -/
theorem weeklyReport_grows : TimeMachine.growth weeklyReport quarterlyReport := by
  have weekly : WeeklySchedule.growth
      (.object [("enabled", .bool true), ("dayOfWeek", .text "WEDNESDAY")])
      (.object [("enabled", .bool true), ("Enabled", .null), ("dayOfWeek", .text "WEDNESDAY")]) :=
    .fields (.insert [_] [_] _ (by decide))
  have schedule : GrownFields Schedule.members
      [("weeklySchedule", .object [("enabled", .bool true), ("dayOfWeek", .text "WEDNESDAY")])]
      [("quarterlySchedule", .object [("enabled", .bool true)]), ("weeklySchedule",
        .object [("enabled", .bool true), ("Enabled", .null), ("dayOfWeek", .text "WEDNESDAY")])] :=
    .added _ (by decide) (.inside rfl weekly .nil)
  have within : Schedule.growth _ _ := .fields schedule
  exact .fields (.added _ (by decide) (.kept _ (.inside rfl within (.added _ (by decide) .nil))))

/-- A report of a database with these further members. -/
def databaseReport (members : List (String × Document)) : Document :=
  .object (members ++ [("id", .text "db-1"), ("name", .text "orders")])

/-- The report grows by a member in the wrong case. -/
theorem databaseReport_grows (value : Document) :
    ManagedDatabase.growth (databaseReport []) (databaseReport [("Status", value)]) :=
  .fields (.insert [] [_, _] _ (by decide))

/-- A report of a catalog with one snapshot that has these further members. -/
def catalogReport (members : List (String × Document)) : Document :=
  .object [("snapshotsPerCluster", .object [("cluster-1", .list [.object [("snapshots",
    .list [.object (members ++ [("id", .text "snap-1")])])]])])]

/-- The report grows with its snapshot. -/
theorem catalogReport_grows (value : Document) :
    SnapshotCatalog.growth (catalogReport []) (catalogReport [("ID", value)]) := by
  -- The snapshot is inside a list, a group, another list and a table.
  have snapshot : Snapshot.growth (.object [("id", .text "snap-1")])
      (.object [("ID", value), ("id", .text "snap-1")]) :=
    .fields (.insert [] [_] _ (by decide))
  have snapshots : GrownList Snapshot.growth _ _ := .items (.cons snapshot .nil)
  have group : SnapshotGroup.growth (.object [("snapshots", _)]) (.object [("snapshots", _)]) :=
    .fields (.inside rfl snapshots .nil)
  have table : GrownTable (GrownList SnapshotGroup.growth)
      (.object [("cluster-1", _)]) (.object [("cluster-1", _)]) :=
    .entries (.cons ⟨Eq.refl "cluster-1", .items (.cons group .nil)⟩ .nil)
  exact .fields (.inside rfl table .nil)

/-- Whatever is added, the client finds the same database, the same schedule and the same snapshot.
-/
theorem answers_may_grow_quarterly :
    ManagedDatabase.read? (databaseReport [("Status", .unreadable)])
        = ManagedDatabase.read? (databaseReport [])
      ∧ (TimeMachine.read? quarterlyReport).map (·.policy.weekly)
        = some { enabled := true, dayOfWeek := "WEDNESDAY" }
      ∧ (SnapshotCatalog.read? (catalogReport [("ID", .null)])).map (·.select "cluster-1")
        = some (.ok "snap-1")
      ∧ found (.timeMachine "tm-1") (.ok (.ofText 200 (Json.write quarterlyReport)))
        = found (.timeMachine "tm-1") (.ok (.ofText 200 (Json.write weeklyReport))) := by
  have before : weeklyReport.isPlain 3 = true := by decide
  have after : quarterlyReport.isPlain 3 = true := by decide
  refine ⟨(answers_may_grow _ _).1 (databaseReport_grows .unreadable), ?machine, ?catalog, ?client⟩
  case machine =>
    rw [((answers_may_grow _ _).2.1 weeklyReport_grows).1]
    rfl
  case catalog =>
    rw [((answers_may_grow _ _).2.2.1 (catalogReport_grows .null)).2 "cluster-1"]
    rfl
  case client =>
    exact (answers_may_grow _ _).2.2.2 (.timeMachine "tm-1") 200 _ _ (by decide)
      ((Json.readBytes_encode _).trans (Json.read_write before))
      ((Json.readBytes_encode _).trans (Json.read_write after)) weeklyReport_grows

end ControlPlane

end DatabaseLifecycle

import DatabaseLifecycle.ControlPlane.ManagedDatabase
import DatabaseLifecycle.ControlPlane.Snapshot
import DatabaseLifecycle.ControlPlane.TimeMachine
import DatabaseLifecycle.Proofs.Resource.Written

/-!
Every answer of the control plane is read back from the document it is written as, whatever it
reports and in whatever order its fields stand.
-/

namespace DatabaseLifecycle

open Document (Restores RestoresAnyOrder)

/-- A managed database is read back. -/
theorem ManagedDatabase.restores :
    RestoresAnyOrder ManagedDatabase.read? ManagedDatabase.write 1 where
  read_arranged order database := by
    simp [ManagedDatabase.read?, ManagedDatabase.write, Document.object_eq_ofFields,
      Record.read?_ofFields, Record.orDefault?_written, Record.required?_written, List.lookup_cons,
      Restores.text.read_write, Restores.bool.read_write]
  present _ := rfl
  plain database := by
    refine Document.isPlain_object ?_
    simp [Restores.text.plain_some, Restores.bool.plain_some]

/-- A number of 32 bits is written like any other whole number. -/
theorem Document.integer_toNat (number : UInt32) :
    Document.integer number.toNat = .natural32 number := rfl

/-- A time of day is read back. -/
theorem TimeOfDay.restores : RestoresAnyOrder TimeOfDay.read? TimeOfDay.write 1 where
  read_arranged order time := by
    -- The kernel must not compute with the bound of the numbers, so every step is a lemma.
    simp -implicitDefEqProofs [TimeOfDay.read?, TimeOfDay.write, Document.object_eq_ofFields,
      Document.integer_toNat, Record.read?_ofFields, Record.required?_written, List.lookup_cons,
      natural32_restores.read_arranged]
  present _ := rfl
  plain time := by
    refine Document.isPlain_object ?_
    simp [Document.integer_toNat, natural32_restores.plain_some]

/-- A weekly schedule is read back. -/
theorem WeeklySchedule.restores : RestoresAnyOrder WeeklySchedule.read? WeeklySchedule.write 1 where
  read_arranged order schedule := by
    simp [WeeklySchedule.read?, WeeklySchedule.write, Document.object_eq_ofFields,
      Record.read?_ofFields, Record.orDefault?_written, List.lookup_cons,
      Restores.text.read_write, Restores.bool.read_write]
  present _ := rfl
  plain schedule := by
    refine Document.isPlain_object ?_
    simp [Restores.text.plain_some, Restores.bool.plain_some]

/-- The schedule of the continuous copies is read back. -/
theorem ContinuousSchedule.restores :
    RestoresAnyOrder ContinuousSchedule.read? ContinuousSchedule.write 1 where
  read_arranged order schedule := by
    simp -implicitDefEqProofs [ContinuousSchedule.read?, ContinuousSchedule.write,
      Document.object_eq_ofFields, Document.integer_toNat, Record.read?_ofFields,
      Record.orDefault?_written, List.lookup_cons, Restores.bool.read_write,
      natural32_restores.read_arranged]
  present _ := rfl
  plain schedule := by
    refine Document.isPlain_object ?_
    simp [Document.integer_toNat, Restores.bool.plain_some, natural32_restores.plain_some]

/-- A monthly schedule is read back. -/
theorem MonthlySchedule.restores :
    RestoresAnyOrder MonthlySchedule.read? MonthlySchedule.write 1 where
  read_arranged order schedule := by
    simp -implicitDefEqProofs [MonthlySchedule.read?, MonthlySchedule.write,
      Document.object_eq_ofFields, Document.integer_toNat, Record.read?_ofFields,
      Record.orDefault?_written, List.lookup_cons, Restores.bool.read_write,
      natural32_restores.read_arranged]
  present _ := rfl
  plain schedule := by
    refine Document.isPlain_object ?_
    simp [Document.integer_toNat, Restores.bool.plain_some, natural32_restores.plain_some]

/-- A schedule is read back. -/
theorem Schedule.restores : RestoresAnyOrder Schedule.read? Schedule.write 2 where
  read_arranged order schedule := by
    simp [Schedule.read?, Schedule.write, Document.object_eq_ofFields, Record.read?_ofFields,
      Record.orDefault?_written, List.lookup_cons, Restores.text.read_write,
      TimeOfDay.restores.read_arranged, ContinuousSchedule.restores.read_arranged,
      WeeklySchedule.restores.read_arranged, MonthlySchedule.restores.read_arranged]
  present _ := rfl
  plain schedule := by
    refine Document.isPlain_object ?_
    simp [Restores.text.plain_some, TimeOfDay.restores.plain_some,
      ContinuousSchedule.restores.plain_some, WeeklySchedule.restores.plain_some,
      MonthlySchedule.restores.plain_some]

/-- A service level is read back. -/
theorem ServiceLevel.restores : RestoresAnyOrder ServiceLevel.read? ServiceLevel.write 1 where
  read_arranged order level := by
    simp [ServiceLevel.read?, ServiceLevel.write, Document.object_eq_ofFields,
      Record.read?_ofFields, Record.orDefault?_written, List.lookup_cons, Restores.text.read_write]
  present _ := rfl
  plain level := by
    refine Document.isPlain_object ?_
    simp [Restores.text.plain_some]

/-- A time machine is read back, with or without its service level and its schedule. -/
theorem TimeMachine.restores : RestoresAnyOrder TimeMachine.read? TimeMachine.write 3 where
  read_arranged order machine := by
    simp [TimeMachine.read?, TimeMachine.write, Document.object_eq_ofFields, Record.read?_ofFields,
      Record.orDefault?_written, Record.required?_written, Record.optional?_written,
      List.lookup_cons, Restores.text.read_write, ServiceLevel.restores.field?_getD,
      Schedule.restores.field?_getD]
  present _ := rfl
  plain machine := by
    refine Document.isPlain_object ?_
    simp [Restores.text.plain_some, ServiceLevel.restores.plain_getD, Schedule.restores.plain_getD]

/-- A snapshot is read back. -/
theorem Snapshot.restores : RestoresAnyOrder Snapshot.read? Snapshot.write 1 where
  read_arranged order snapshot := by
    simp [Snapshot.read?, Snapshot.write, Document.object_eq_ofFields, Record.read?_ofFields,
      Record.orDefault?_written, Record.required?_written, List.lookup_cons,
      Restores.text.read_write]
  present _ := rfl
  plain snapshot := by
    refine Document.isPlain_object ?_
    simp [Restores.text.plain_some]

/-- A group of snapshots is read back. -/
theorem SnapshotGroup.restores : RestoresAnyOrder SnapshotGroup.read? SnapshotGroup.write 3 where
  read_arranged order group := by
    simp [SnapshotGroup.read?, SnapshotGroup.write, Document.object_eq_ofFields,
      Record.read?_ofFields, Record.orDefault?_written, Snapshot.restores.list.read_arranged]
  present _ := rfl
  plain group := by
    refine Document.isPlain_object ?_
    simp [Snapshot.restores.list.plain_some]

/-- A catalog is read back. -/
theorem SnapshotCatalog.restores :
    RestoresAnyOrder SnapshotCatalog.read? SnapshotCatalog.write 6 where
  read_arranged order catalog := by
    have back := SnapshotGroup.restores.list.table.read_arranged order catalog.clusters
    rw [SnapshotCatalog.write, Document.object_eq_ofFields]
    simp [SnapshotCatalog.read?, Record.read?_ofFields, Record.orDefault?_written, back]
  present _ := rfl
  plain catalog := by
    have plain := SnapshotGroup.restores.list.table.plain_some (Nat.le_refl 5) catalog.clusters
    exact Document.isPlain_object (by simpa using plain)

end DatabaseLifecycle

import DatabaseLifecycle.Proofs.ControlPlane.Written

/-!
The forms in which values go over the wire and into records. In every form each value is read back
from what it is written as, so reading, writing and reading again changes nothing.
-/

namespace DatabaseLifecycle

/-- The forms of values: those of the records that this library defines, of their parts, and of what
the control plane answers. -/
inductive Form where
  /-- The backup policy of an instance. -/
  | backupPolicy
  /-- What is asked of a fresh instance. -/
  | instanceSpec
  /-- What is asked of a clone. -/
  | cloneSpec
  /-- What a database record asks for. -/
  | databaseSpec
  /-- What is known of a database. -/
  | databaseStatus
  /-- What a server registration asks for. -/
  | serverSpec
  /-- What is known of a registered server. -/
  | serverStatus
  /-- Database records. -/
  | database
  /-- Server registrations. -/
  | server
  /-- Databases as the control plane reports them. -/
  | managedDatabase
  /-- Times of day. -/
  | timeOfDay
  /-- Schedules of the continuous copies. -/
  | continuousSchedule
  /-- Weekly schedules. -/
  | weeklySchedule
  /-- Monthly schedules. -/
  | monthlySchedule
  /-- Whole schedules. -/
  | schedule
  /-- Service levels. -/
  | serviceLevel
  /-- Time machines. -/
  | timeMachine
  /-- Snapshots. -/
  | snapshot
  /-- Groups of snapshots. -/
  | snapshotGroup
  /-- The snapshots of a time machine. -/
  | snapshotCatalog
  deriving DecidableEq, Repr

namespace Form

/-- The values of a form. -/
@[reducible] def Value : Form → Type
  | backupPolicy => BackupPolicy
  | instanceSpec => InstanceSpec
  | cloneSpec => CloneSpec
  | databaseSpec => DatabaseSpec
  | databaseStatus => DatabaseStatus
  | serverSpec => ServerSpec
  | serverStatus => ServerStatus
  | database => Database
  | server => Server
  | managedDatabase => ManagedDatabase
  | timeOfDay => TimeOfDay
  | continuousSchedule => ContinuousSchedule
  | weeklySchedule => WeeklySchedule
  | monthlySchedule => MonthlySchedule
  | schedule => Schedule
  | serviceLevel => ServiceLevel
  | timeMachine => TimeMachine
  | snapshot => Snapshot
  | snapshotGroup => SnapshotGroup
  | snapshotCatalog => SnapshotCatalog

/-- A value as it is read. -/
def read? : (form : Form) → Document → Option form.Value
  | backupPolicy => BackupPolicy.read?
  | instanceSpec => InstanceSpec.read?
  | cloneSpec => CloneSpec.read?
  | databaseSpec => DatabaseSpec.read?
  | databaseStatus => DatabaseStatus.read?
  | serverSpec => ServerSpec.read?
  | serverStatus => ServerStatus.read?
  | database => Database.read?
  | server => Server.read?
  | managedDatabase => ManagedDatabase.read?
  | timeOfDay => TimeOfDay.read?
  | continuousSchedule => ContinuousSchedule.read?
  | weeklySchedule => WeeklySchedule.read?
  | monthlySchedule => MonthlySchedule.read?
  | schedule => Schedule.read?
  | serviceLevel => ServiceLevel.read?
  | timeMachine => TimeMachine.read?
  | snapshot => Snapshot.read?
  | snapshotGroup => SnapshotGroup.read?
  | snapshotCatalog => SnapshotCatalog.read?

/-- A value as it is written. -/
def write : (form : Form) → form.Value → Document
  | backupPolicy => BackupPolicy.write
  | instanceSpec => InstanceSpec.write
  | cloneSpec => CloneSpec.write
  | databaseSpec => DatabaseSpec.write
  | databaseStatus => DatabaseStatus.write
  | serverSpec => ServerSpec.write
  | serverStatus => ServerStatus.write
  | database => Database.write
  | server => Server.write
  | managedDatabase => ManagedDatabase.write
  | timeOfDay => TimeOfDay.write
  | continuousSchedule => ContinuousSchedule.write
  | weeklySchedule => WeeklySchedule.write
  | monthlySchedule => MonthlySchedule.write
  | schedule => Schedule.write
  | serviceLevel => ServiceLevel.write
  | timeMachine => TimeMachine.write
  | snapshot => Snapshot.write
  | snapshotGroup => SnapshotGroup.write
  | snapshotCatalog => SnapshotCatalog.write

/-- Every value of every form is read back in every order of its fields. -/
theorem restores (form : Form) : Document.RestoresAnyOrder form.read? form.write 6 := by
  -- A catalog of snapshots is the deepest of all values.
  cases form with
  | backupPolicy => exact BackupPolicy.restores.mono (by decide)
  | instanceSpec => exact InstanceSpec.restores.mono (by decide)
  | cloneSpec => exact CloneSpec.restores.mono (by decide)
  | databaseSpec => exact (DatabaseSpec.restoresWithin (by decide)).mono (by decide)
  | databaseStatus => exact DatabaseStatus.restores.mono (by decide)
  | serverSpec => exact ServerSpec.restores.mono (by decide)
  | serverStatus => exact ServerStatus.restores.mono (by decide)
  | database => exact Database.restores.mono (by decide)
  | server => exact Server.restores.mono (by decide)
  | managedDatabase => exact ManagedDatabase.restores.mono (by decide)
  | timeOfDay => exact TimeOfDay.restores.mono (by decide)
  | continuousSchedule => exact ContinuousSchedule.restores.mono (by decide)
  | weeklySchedule => exact WeeklySchedule.restores.mono (by decide)
  | monthlySchedule => exact MonthlySchedule.restores.mono (by decide)
  | schedule => exact Schedule.restores.mono (by decide)
  | serviceLevel => exact ServiceLevel.restores.mono (by decide)
  | timeMachine => exact TimeMachine.restores.mono (by decide)
  | snapshot => exact Snapshot.restores.mono (by decide)
  | snapshotGroup => exact SnapshotGroup.restores.mono (by decide)
  | snapshotCatalog => exact SnapshotCatalog.restores

variable (form : Form)

/-- A value as it is read from a text. -/
def ofText? (text : String) : Option form.Value := Json.read text >>= form.read?

/-- The text of a value with its fields in some order. -/
def text (order : Document.FieldOrder) (value : form.Value) : String :=
  Json.write ((form.write value).arranged order)

/-- The text of a value is read as the value. -/
theorem ofText?_text (order : Document.FieldOrder) (value : form.Value) :
    form.ofText? (form.text order value) = some value := by
  have plain := Document.isPlain_arranged order (form.restores.plain value)
  rw [ofText?, text, Json.read_write plain]
  exact form.restores.read_arranged order value

/-- In every form each value is read back from what it is written as: from the document as it was
written, with sorted keys or in any other order, and from the text of each of them. Hence what is
accepted, as a document or as a text, is read as the same value again after it is written. -/
theorem written_values_read_back :
    (∀ value, form.read? (form.write value) = some value
        ∧ form.read? (form.write value).sorted = some value
        ∧ form.ofText? (Json.write (form.write value)) = some value)
      ∧ (∀ order value, form.read? ((form.write value).arranged order) = some value
        ∧ form.ofText? (form.text order value) = some value)
      ∧ (∀ order document, (form.read? document >>= fun value =>
          form.read? ((form.write value).arranged order)) = form.read? document)
      ∧ ∀ order text, (form.ofText? text >>= fun value =>
          form.ofText? (form.text order value)) = form.ofText? text := by
  have documents := form.restores.read_arranged
  have texts := form.ofText?_text
  refine ⟨fun value => ⟨?_, ?_, ?_⟩, fun order value => ⟨documents order value, texts order value⟩,
    fun order document => ?_, fun order text => ?_⟩
  -- The order of writing and the order of the keys are two of all.
  · exact form.restores.restores.read_write value
  · rw [← Document.arranged_byKey]
    exact documents .byKey value
  · simpa [text] using texts .asWritten value
  -- What was accepted is a value, and that is read back.
  · simp only [documents]
    exact Option.bind_fun_some _
  · simp only [texts]
    exact Option.bind_fun_some _

end Form

end DatabaseLifecycle

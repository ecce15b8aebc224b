import DatabaseLifecycle.ControlPlane.ManagedDatabase
import DatabaseLifecycle.ControlPlane.Snapshot
import DatabaseLifecycle.ControlPlane.TimeMachine

/-! Lookups: what a control plane can be asked for. -/

namespace DatabaseLifecycle

/-- Something to look up on a control plane. -/
inductive Lookup where
  /-- The instance with an id. -/
  | database (id : String)
  /-- The instance with a name. -/
  | databaseNamed (name : String)
  /-- The clone with an id. -/
  | clone (id : String)
  /-- The time machine with an id, with its service level and schedule. -/
  | timeMachine (id : String)
  /-- The snapshots of the time machine with an id. -/
  | snapshots (timeMachineId : String)
  deriving DecidableEq, Repr, Inhabited

namespace Lookup

/-- What a lookup finds. -/
@[reducible] def Found : Lookup → Type
  | database _ | databaseNamed _ | clone _ => ManagedDatabase
  | timeMachine _ => TimeMachine
  | snapshots _ => SnapshotCatalog

/-- The name of the operation that looks it up. -/
def operation : Lookup → String
  | database _ => "get_database_by_id"
  | databaseNamed _ => "get_database_by_name"
  | clone _ => "get_clone_by_id"
  | timeMachine _ => "get_time_machine_by_id"
  | snapshots _ => "get_snapshots_for_time_machine"

/-- The id or name that is looked up. -/
def argument : Lookup → String
  | database id => id
  | databaseNamed name => name
  | clone id => id
  | timeMachine id => id
  | snapshots id => id

/-- What is found, as it is read. -/
def read? {ν : Type} [Source ν] : (lookup : Lookup) → ν → Option lookup.Found
  | database _, value => ManagedDatabase.read? value
  | databaseNamed _, value => ManagedDatabase.read? value
  | clone _, value => ManagedDatabase.read? value
  | timeMachine _, value => TimeMachine.read? value
  | snapshots _, value => SnapshotCatalog.read? value

/-- What is found, as it is written. -/
def write : (lookup : Lookup) → lookup.Found → Document
  | database _, found => found.write
  | databaseNamed _, found => found.write
  | clone _, found => found.write
  | timeMachine _, found => found.write
  | snapshots _, found => found.write

end Lookup

end DatabaseLifecycle

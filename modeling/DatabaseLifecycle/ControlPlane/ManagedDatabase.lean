import DatabaseLifecycle.Document.Record

/-! Databases as the control plane reports them. -/

namespace DatabaseLifecycle

/-- An instance or a clone as the control plane reports it. -/
structure ManagedDatabase where
  /-- The control plane's name for it. -/
  id : String
  /-- Its own name. -/
  name : String
  /-- What it is for. -/
  description : String := ""
  /-- How far it is. -/
  status : String := ""
  /-- The engine. -/
  type : String := ""
  /-- The time machine attached to it. -/
  timeMachineId : String := ""
  /-- Whether it is a clone. -/
  clone : Bool := false
  deriving DecidableEq, Repr, Inhabited

namespace ManagedDatabase

/-- A managed database as it is read. -/
def read? {ν : Type} [Source ν] (value : ν) : Option ManagedDatabase := do
  let record ← Record.read?
    ["id", "name", "description", "status", "type", "timeMachineId", "clone"] value
  return {
    id := ← record.required? "id" Source.text?
    name := ← record.required? "name" Source.text?
    description := ← record.orDefault? "description" "" Source.text?
    status := ← record.orDefault? "status" "" Source.text?
    type := ← record.orDefault? "type" "" Source.text?
    timeMachineId := ← record.orDefault? "timeMachineId" "" Source.text?
    clone := ← record.orDefault? "clone" false Source.bool? }

/-- A managed database as it is written. -/
def write (database : ManagedDatabase) : Document :=
  .object [
    ("id", .text database.id),
    ("name", .text database.name),
    ("description", .text database.description),
    ("status", .text database.status),
    ("type", .text database.type),
    ("timeMachineId", .text database.timeMachineId),
    ("clone", .bool database.clone)]

end ManagedDatabase

end DatabaseLifecycle

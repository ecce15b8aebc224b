import DatabaseLifecycle.Environment
import DatabaseLifecycle.Resource.Bundle
import DatabaseLifecycle.Workflow.Call

/-!
Preparation of a clone: the database to clone is looked up by its name, and one of its snapshots on
the clone's compute cluster is chosen.
-/

namespace DatabaseLifecycle.Workflow

/-- The clone of a source, restored from one of its snapshots on the clone's cluster. -/
def chooseSource (clone : CloneSpec) (source : String) : ExceptT Error Workflow CloneSpec := do
  if Text.isBlankText clone.clusterId then
    throw (.validation clone.name "clone requires non-empty clusterId to select a snapshot")
  else
    let database ← ExceptT.mk (lookup (.databaseNamed source))
    if database.timeMachineId.isEmpty then throw (.notFound "time machine of database" source)
    else
      let catalog ← ExceptT.mk (lookup (.snapshots database.timeMachineId))
      let snapshotId ← ofResult (catalog.select clone.clusterId)
      return { clone with sourceDatabaseId := database.id, snapshotId }

/-- Points a clone at a snapshot of its source; a clone that cannot be pointed is left as it is. -/
def prepareCloneSource (clone : CloneSpec) (source : String) :
    Workflow (Except Error Unit × CloneSpec) := do
  match ← (chooseSource clone source).run with
  | .ok chosen => return (.ok (), chosen)
  | .error error => return (.error error, clone)

/-- The database as a clone with this specification. -/
def withClone (database : Database) (clone : CloneSpec) : Database :=
  { database with spec := { database.spec with mode := .clone clone } }

/-- Points the clone of a bundle, placed on the environment's cluster if that names one, at a
snapshot of its source. -/
def prepareClone (environment : Environment) (bundle : Bundle) (source : String) :
    Workflow (Except Error Unit × Bundle) := do
  let (result, bundle) ← match bundle.database with
    | none => pure (.error (.configuration "clone preparation needs a database template"), bundle)
    | some database =>
      match database.spec.mode with
      | .fresh _ =>
        pure (.error (.validation database.metadata.effectiveName
          "database template is not a clone"), bundle)
      | .clone clone => do
        let clone := { clone with clusterId := environment.cloneClusterId.getD clone.clusterId }
        let (result, clone) ← prepareCloneSource clone source
        pure (result, { bundle with database := some (withClone database clone) })
  return (← logged "prepare_clone" result, bundle)

end DatabaseLifecycle.Workflow

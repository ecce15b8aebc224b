import DatabaseLifecycle.Resource.Kind

/-! Bundles: the records that one workflow works on, any of which may be absent. -/

namespace DatabaseLifecycle

/-- The records that one workflow works on. -/
structure Bundle where
  /-- The credentials of the database. -/
  databaseSecret : Option Secret := none
  /-- The credentials for the control plane. -/
  serverSecret : Option Secret := none
  /-- The registration of the control plane. -/
  server : Option Server := none
  /-- The database record. -/
  database : Option Database := none
  /-- The workload that verifies the database. -/
  workload : Option Pod := none
  deriving Inhabited

namespace Bundle

/-- Whether no record is present. -/
def isEmpty (bundle : Bundle) : Bool :=
  bundle.databaseSecret.isNone && bundle.serverSecret.isNone && bundle.server.isNone
    && bundle.database.isNone && bundle.workload.isNone

/-- The namespace that the bundle is meant for: the database record's. -/
def namespaceName (bundle : Bundle) : String :=
  (bundle.database.map Database.namespaceName).getD defaultNamespace

end Bundle

end DatabaseLifecycle

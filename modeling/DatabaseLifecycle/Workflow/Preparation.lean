import DatabaseLifecycle.Environment
import DatabaseLifecycle.Resource.Bundle

/-!
Preparation of a bundle for submission: passwords, endpoint and placement come from the environment,
records without a namespace get the bundle's, and a clone must name its source, cluster and
snapshot.
-/

namespace DatabaseLifecycle.Bundle

/-- The bundle with the database's password in its secret. -/
def fillDatabaseSecret (environment : Environment) (target : String) (bundle : Bundle) :
    Except Error Bundle :=
  match bundle.databaseSecret with
  | none => .ok bundle
  | some secret => do
    let password ← Environment.require environment.databasePassword
      Environment.databasePasswordVariable
    let secret := { secret with metadata := secret.metadata.withNamespace target }
    return { bundle with
      databaseSecret := some (secret.inject [(Credentials.passwordKey, password)]) }

/-- The bundle with the control plane's username and password in their secret. -/
def fillServerSecret (environment : Environment) (target : String) (bundle : Bundle) :
    Except Error Bundle :=
  match bundle.serverSecret with
  | none => .ok bundle
  | some secret => do
    let username ← Environment.require environment.controlPlaneUsername
      Environment.usernameVariable
    let password ← Environment.require environment.controlPlanePassword
      Environment.passwordVariable
    let secret := { secret with metadata := secret.metadata.withNamespace target }
    return { bundle with
      serverSecret := some (secret.inject
        [(Credentials.usernameKey, username), (Credentials.passwordKey, password)]) }

/-- The bundle with the control plane's endpoint in its registration. -/
def fillServer (environment : Environment) (target : String) (bundle : Bundle) :
    Except Error Bundle :=
  match bundle.server with
  | none => .ok bundle
  | some server => do
    let endpoint ← Environment.require environment.controlPlaneEndpoint
      Environment.endpointVariable
    return { bundle with
      server := some { server with
        metadata := server.metadata.withNamespace target
        spec := { server.spec with server := endpoint } } }

/-- The specification on the compute cluster that the environment names, if it names one. -/
def placed (environment : Environment) (spec : DatabaseSpec) : DatabaseSpec :=
  match environment.clusterId spec.isClone with
  | some clusterId => spec.withClusterId clusterId
  | none => spec

/-- The bundle with its database on the environment's compute cluster. -/
def placeDatabase (environment : Environment) (target : String) (bundle : Bundle) : Bundle :=
  { bundle with
    database := bundle.database.map fun database => { database with
      metadata := database.metadata.withNamespace target
      spec := placed environment database.spec } }

/-- The bundle, unless its database is a clone that cannot be submitted. -/
def checkClone (bundle : Bundle) : Except Error Bundle :=
  match bundle.database with
  | none => .ok bundle
  | some database =>
    match database.spec.mode with
    | .fresh _ => .ok bundle
    | .clone clone => do
      clone.validate database.metadata.effectiveName
      return bundle

/-- The bundle with its workload in a namespace. -/
def placeWorkload (target : String) (bundle : Bundle) : Bundle :=
  { bundle with
    workload := bundle.workload.map fun pod =>
      { pod with metadata := pod.metadata.withNamespace target } }

/-- Stages one after another, each working on the bundle that the one before left. The first that
fails ends them and leaves the bundle as it found it. -/
def inTurn : List (Bundle → Except Error Bundle) → Bundle → Except Error Unit × Bundle
  | [], bundle => (.ok (), bundle)
  | stage :: rest, bundle =>
    match stage bundle with
    | .ok next => inTurn rest next
    | .error error => (.error error, bundle)

/-- The bundle ready for submission, or the cause for which it cannot be submitted together with
what was done so far. -/
def prepare (environment : Environment) (bundle : Bundle) : Except Error Unit × Bundle :=
  let target := bundle.namespaceName
  inTurn [
    fillDatabaseSecret environment target,
    fillServerSecret environment target,
    fillServer environment target,
    fun bundle => .ok (placeDatabase environment target bundle),
    checkClone,
    fun bundle => .ok (placeWorkload target bundle)] bundle

end DatabaseLifecycle.Bundle

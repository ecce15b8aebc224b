import DatabaseLifecycle.ControlPlane.Credentials

/-!
The environment of a workflow: passwords, endpoint and placement, which never stand in templates. It
is captured once; an empty variable counts as unset.
-/

namespace DatabaseLifecycle

/-- The values that a workflow takes from its environment. -/
structure Environment where
  /-- The password of the database. -/
  databasePassword : Option String := none
  /-- The user of the control plane. -/
  controlPlaneUsername : Option String := none
  /-- That user's password. -/
  controlPlanePassword : Option String := none
  /-- Where the control plane is reached. -/
  controlPlaneEndpoint : Option String := none
  /-- The compute cluster for instances. -/
  instanceClusterId : Option String := none
  /-- The compute cluster for clones. -/
  cloneClusterId : Option String := none
  deriving DecidableEq, Inhabited

namespace Environment

/-- The variable with the database's password. -/
def databasePasswordVariable : String := "DB_SECRET_PASSWORD"

/-- The variable with the control plane's user. -/
def usernameVariable : String := "CONTROL_PLANE_USERNAME"

/-- The variable with the control plane's password. -/
def passwordVariable : String := "CONTROL_PLANE_PASSWORD"

/-- The variable with the control plane's endpoint. -/
def endpointVariable : String := "CONTROL_PLANE_SERVER"

/-- The variable with the compute cluster for instances. -/
def instanceClusterVariable : String := "INSTANCE_CLUSTER_ID"

/-- The variable with the compute cluster for clones. -/
def cloneClusterVariable : String := "CLONE_CLUSTER_ID"

/-- The names of all variables. -/
def variableNames : List String :=
  [databasePasswordVariable, usernameVariable, passwordVariable, endpointVariable,
    instanceClusterVariable, cloneClusterVariable]

/-- The environment in which variables have these values. -/
def ofLookup (lookup : String → Option String) : Environment :=
  let get (name : String) : Option String := (lookup name).filter (!·.isEmpty)
  { databasePassword := get databasePasswordVariable
    controlPlaneUsername := get usernameVariable
    controlPlanePassword := get passwordVariable
    controlPlaneEndpoint := get endpointVariable
    instanceClusterId := get instanceClusterVariable
    cloneClusterId := get cloneClusterVariable }

/-- The compute cluster for clones or for instances. -/
def clusterId (environment : Environment) (isClone : Bool) : Option String :=
  if isClone then environment.cloneClusterId else environment.instanceClusterId

/-- The value of a variable that must be set. -/
def require (value : Option String) (name : String) : Except Error String :=
  match value with
  | some value => .ok value
  | none => .error (.configuration (name ++ " is not set"))

/-- The credentials for the control plane that the environment itself names. -/
def credentials (environment : Environment) : Except Error Credentials := do
  let endpoint ← require environment.controlPlaneEndpoint endpointVariable
  let username ← require environment.controlPlaneUsername usernameVariable
  let password ← require environment.controlPlanePassword passwordVariable
  return { endpoint, username, password }

/-- The environment described without its passwords. -/
def description (environment : Environment) : String :=
  let hidden (value : Option String) : String :=
    Text.describedOption (value.map fun _ => Text.redacted)
  Text.describedFields "WorkflowEnv" [
    ("db_password", hidden environment.databasePassword),
    ("control_plane_username", Text.describedOption environment.controlPlaneUsername),
    ("control_plane_password", hidden environment.controlPlanePassword),
    ("control_plane_endpoint", Text.describedOption environment.controlPlaneEndpoint),
    ("instance_cluster_id", Text.describedOption environment.instanceClusterId),
    ("clone_cluster_id", Text.describedOption environment.cloneClusterId)]

end Environment

end DatabaseLifecycle

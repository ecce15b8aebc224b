/-! Logging: the forms of log lines, and the failure to set logging up. -/

namespace DatabaseLifecycle.Telemetry

/-- The form of log lines. -/
inductive LogFormat where
  /-- Lines to be read. -/
  | text
  /-- Lines to be processed. -/
  | json
  deriving DecidableEq, Repr, Inhabited

/-- The wording for logging that is set up a second time. -/
def alreadySetUp : String :=
  "failed to initialize tracing subscriber: a global default trace dispatcher has already been set"

end DatabaseLifecycle.Telemetry

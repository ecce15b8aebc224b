import DatabaseLifecycle.ControlPlane.Credentials
import DatabaseLifecycle.ControlPlane.Lookup
import DatabaseLifecycle.Text.Blank
import DatabaseLifecycle.Web

/-!
The control plane as a source of lookups: each is one request under the endpoint, made in the name
of the user and, if there is one, of the tenant. How requests are sent is left open.
-/

namespace DatabaseLifecycle

namespace Lookup

/-- The path of a lookup below the endpoint. -/
def path : Lookup → String
  | database id => "databases/" ++ id
  | databaseNamed name => "databases/" ++ name
  | clone id => "clones/" ++ id
  | timeMachine id => "tms/" ++ id
  | snapshots id => "tms/" ++ id ++ "/snapshots"

/-- The pairs in the query of a lookup. -/
def query : Lookup → List (String × String)
  | database _ => [("detailed", "true")]
  | databaseNamed _ => [("value-type", "name"), ("detailed", "true")]
  | clone _ => [("detailed", "true")]
  | timeMachine _ => [("load-sla", "true"), ("load-schedule", "true")]
  | snapshots _ => [("all", "false"), ("time-zone", "UTC")]

end Lookup

namespace ControlPlane

/-- The header that says who asks. -/
def authorization (credentials : Credentials) : String :=
  Web.basic credentials.username credentials.password

/-- Refuses credentials that name no endpoint. -/
def connect (credentials : Credentials) : Except Error Unit :=
  if Text.isBlankText credentials.endpoint then
    .error (.configuration "control plane endpoint is empty")
  else .ok ()

/-- The request of a lookup, or the wording for why there is none. -/
def request (credentials : Credentials) (wanted : Lookup) : Except String Web.Request :=
  Web.request (Url.join credentials.endpoint wanted.path) wanted.query
    (some (authorization credentials)) credentials.tenant

/-- What an answer, or its absence, says about a lookup. -/
def found (wanted : Lookup) (answer : Except String Http.Response) : Except Error wanted.Found :=
  match answer with
  | .error wording =>
    .error (.controlPlane wanted.operation none ("request failed: " ++ wording))
  | .ok response =>
    if Http.isSuccess response.status then
      match Json.readBytes response.body >>= wanted.read? with
      | some value => .ok value
      | none => .error (.controlPlane wanted.operation none
          "invalid JSON: error decoding response body")
    else .error (.controlPlane wanted.operation (some response.status)
      ("HTTP " ++ Http.statusText response.status ++ ": "
        ++ Text.trim (Text.Utf8.decodeLossy response.body)))

/-- Looks something up. -/
def lookup {m : Type → Type} [Monad m] (send : Web.Transport m) (credentials : Credentials)
    (wanted : Lookup) : m (Except Error wanted.Found) := do
  return found wanted (← Web.exchange send (request credentials wanted))

end ControlPlane

end DatabaseLifecycle

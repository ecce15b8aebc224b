import DatabaseLifecycle.Document.Table
import DatabaseLifecycle.Error
import DatabaseLifecycle.Text.Redacted

/-! Credentials for a control plane, taken from the values of a secret. -/

namespace DatabaseLifecycle

/-- What is needed to talk to a control plane. -/
structure Credentials where
  /-- Where it is reached. -/
  endpoint : String
  /-- The user. -/
  username : String
  /-- The user's password. -/
  password : String
  /-- The tenant to act as. -/
  tenant : Option String := none
  /-- Whether certificates are accepted without verification. -/
  insecure : Bool := false
  deriving DecidableEq, Inhabited

namespace Credentials

/-- The key of the username in a secret. -/
def usernameKey : String := "username"

/-- The key of the password in a secret. -/
def passwordKey : String := "password"

/-- The value under a key of a secret, which must not be empty. -/
def value (secret : String) (values : Table String) (key : String) : Except Error String :=
  match (values.find? key).filter (!·.isEmpty) with
  | some value => .ok value
  | none => .error (.invalidCredential secret ("'" ++ key ++ "' is missing or empty"))

/-- The credentials in the values of a secret, the username looked for first. -/
def ofSecret (secret : String) (values : Table String) (endpoint : String) :
    Except Error Credentials := do
  let username ← value secret values usernameKey
  let password ← value secret values passwordKey
  return { endpoint, username, password }

/-- The credentials for acting as a tenant; an empty name is no tenant. -/
def withTenant (credentials : Credentials) (tenant : Option String) : Credentials :=
  { credentials with tenant := tenant.filter (!·.isEmpty) }

/-- The credentials with certificates verified or not. -/
def withInsecure (credentials : Credentials) (insecure : Bool) : Credentials :=
  { credentials with insecure }

/-- The credentials described without the password. -/
def description (credentials : Credentials) : String :=
  Text.describedFields "ControlPlaneCredentials" [
    ("endpoint", Text.quoted credentials.endpoint),
    ("username", Text.quoted credentials.username),
    ("password", Text.quoted Text.redacted),
    ("tenant", Text.describedOption credentials.tenant),
    ("insecure", Text.describedBool credentials.insecure)]

end Credentials

end DatabaseLifecycle

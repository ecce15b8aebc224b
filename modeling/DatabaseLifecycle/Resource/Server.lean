import DatabaseLifecycle.Resource.Metadata

/-!
Server registrations: where a control plane is reached and which secret holds the credentials for
it.
-/

namespace DatabaseLifecycle

/-- The version of the form of the records that this library defines. -/
def customVersion : String := "dbflow.dev/v1alpha1"

/-- What a server registration asks for. -/
structure ServerSpec where
  /-- The endpoint of the control plane. -/
  server : String := ""
  /-- The name of the secret with the username and password. -/
  credentialSecret : String
  /-- Whether certificates are accepted without verification. -/
  skipCertificateVerification : Bool := false
  /-- The tenant to act as. -/
  tenant : Option String := none
  deriving DecidableEq, Repr, Inhabited

/-- What is known of a registered server. -/
structure ServerStatus where
  /-- Whether it can be reached. -/
  status : String := ""
  /-- When that was last found out. -/
  lastUpdated : Option String := none
  deriving DecidableEq, Repr, Inhabited

/-- A server registration. -/
structure Server where
  /-- What the registration says about itself. -/
  metadata : Metadata
  /-- What it asks for. -/
  spec : ServerSpec
  /-- What is known of the server. -/
  status : Option ServerStatus := none
  deriving Inhabited

/-- A record with metadata, a specification and perhaps a status. -/
def Record.readResource? {ν : Type} [Source ν] {α β γ : Type} (build : Metadata → α → Option β → γ)
    (readSpec : ν → Option α) (readStatus : ν → Option β) (value : ν) : Option γ := do
  let record ← Record.read? ["metadata", "spec", "status"] value
  -- Written by position, all three parts are given.
  if (Source.fields? value).isNone && record.given.length != 3 then none
  else
    return build (← record.required? "metadata" Metadata.read?) (← record.required? "spec" readSpec)
      (← record.optional? "status" readStatus)

namespace ServerSpec

/-- The specification as it is read. -/
def read? {ν : Type} [Source ν] (value : ν) : Option ServerSpec := do
  let record ← Record.read?
    ["server", "credentialSecret", "skipCertificateVerification", "tenant"] value
  return {
    server := ← record.orDefault? "server" "" Source.text?
    credentialSecret := ← record.required? "credentialSecret" Source.text?
    skipCertificateVerification :=
      ← record.orDefault? "skipCertificateVerification" false Source.bool?
    tenant := ← record.optional? "tenant" Source.text? }

/-- The specification as it is written. -/
def write (spec : ServerSpec) : Document :=
  .ofFields [
    ("server", some (.text spec.server)),
    ("credentialSecret", some (.text spec.credentialSecret)),
    ("skipCertificateVerification", some (.bool spec.skipCertificateVerification)),
    ("tenant", spec.tenant.map .text)]

end ServerSpec

namespace ServerStatus

/-- The status as it is read. -/
def read? {ν : Type} [Source ν] (value : ν) : Option ServerStatus := do
  let record ← Record.read? ["status", "lastUpdated"] value
  return {
    status := ← record.orDefault? "status" "" Source.text?
    lastUpdated := ← record.optional? "lastUpdated" Source.text? }

/-- The status as it is written. -/
def write (status : ServerStatus) : Document :=
  .ofFields [
    ("status", some (.text status.status)),
    ("lastUpdated", status.lastUpdated.map .text)]

end ServerStatus

namespace Server

/-- The name of the kind. -/
def kindName : String := "ControlPlaneServer"

/-- A server registration as it is read. -/
def read? {ν : Type} [Source ν] (value : ν) : Option Server :=
  Record.readResource? Server.mk ServerSpec.read? ServerStatus.read? value

/-- A server registration as it is written. -/
def write (server : Server) : Document :=
  .ofFields [
    ("apiVersion", some (.text customVersion)),
    ("kind", some (.text kindName)),
    ("metadata", some server.metadata.write),
    ("spec", some server.spec.write),
    ("status", server.status.map ServerStatus.write)]

end Server

end DatabaseLifecycle

import DatabaseLifecycle.Document.Json
import DatabaseLifecycle.Error
import DatabaseLifecycle.Http
import DatabaseLifecycle.Resource.Kind

/-!
Answers of the cluster: a record, a refusal, or the word that a record is being deleted.
-/

namespace DatabaseLifecycle.Cluster

/-- A refusal as it is read. -/
def readRefusal? {ν : Type} [Source ν] (value : ν) : Option Refusal := do
  let record ← Record.read? ["status", "message", "reason", "code"] value
  return {
    status := ← record.required? "status" Source.text?
    message := ← record.orDefault? "message" "" Source.text?
    reason := ← record.orDefault? "reason" "" Source.text?
    code := ← record.required? "code" Source.natural16? }

/-- The refusal that an answer with a status and a text says, or one made up from an answer that does not
say any. -/
def refusal (status : UInt16) (text : String) : Refusal :=
  match Json.read text >>= readRefusal? with
  | some refusal => refusal
  | none => {
      status := Http.statusText status
      message := Text.quoted text
      reason := "Failed to parse error data"
      code := status }

/-- The text of an answer that is no refusal. -/
def accepted (response : Http.Response) : Except ClusterFailure String := do
  let text ← (Text.Utf8.decode response.body).mapError .garbled
  if Http.isFailure response.status then .error (.refused (refusal response.status text))
  else return text

/-- A value, or the failure to read it. -/
def decoded {α : Type} (value : Option α) : Except ClusterFailure α :=
  match value with
  | some value => .ok value
  | none => .error (.undecodable "unexpected content")

/-- The record that an answer holds. -/
def readRecord (kind : Kind) (response : Http.Response) : Except ClusterFailure kind.Record := do
  let text ← accepted response
  decoded (Json.read text >>= kind.read?)

/-- The outcome that a status names. -/
def readSummary? (value : Document) : Option String :=
  let known (name : String) : Option String :=
    if name == "Success" || name == "Failure" then some name else none
  match value with
  | .text name => known name
  | .object [(name, .null)] => known name
  | _ => none

/-- What a status says of one cause, as it is read. -/
def readCause? (value : Document) : Option Unit := do
  let record ← Record.read? ["reason", "message", "field"] value
  for key in ["reason", "message", "field"] do
    let _ ← record.orDefault? key "" Source.text?
  return ()

/-- What a status says of the record it is about, as it is read. -/
def readDetails? (value : Document) : Option Unit := do
  let record ← Record.read?
    ["name", "group", "kind", "uid", "causes", "retryAfterSeconds"] value
  for key in ["name", "group", "kind", "uid"] do
    let _ ← record.orDefault? key "" Source.text?
  let _ ← record.orDefault? "causes" [] (Source.list? readCause?)
  let _ ← record.orDefault? "retryAfterSeconds" 0 Source.natural32?
  return ()

/-- A status as it is read. -/
def readStatus? (value : Document) : Option Unit := do
  let record ← Record.read? ["status", "code", "message", "reason", "details"] value
  let _ ← record.optional? "status" readSummary?
  let _ ← record.orDefault? "code" 0 Source.natural16?
  let _ ← record.orDefault? "message" "" Source.text?
  let _ ← record.orDefault? "reason" "" Source.text?
  let _ ← record.optional? "details" readDetails?
  return ()

/-- How many lists and objects may lie inside one another in the answer to a deletion. -/
def answerDepth : Nat := 127

/-- Whether an answer confirms a deletion: it is a status, or the record as it was. -/
def readDeletion (kind : Kind) (response : Http.Response) : Except ClusterFailure Unit := do
  let text ← accepted response
  let document ← decoded ((Json.read text).filter (·.isReadable answerDepth))
  match document.find? "kind" with
  | some (.text "Status") => decoded (readStatus? document)
  | _ => decoded ((kind.read? document).map fun _ => ())

end DatabaseLifecycle.Cluster

import DatabaseLifecycle.Text.Quoted

/-!
The causes for which a workflow or one of its calls fails, with their wording and with what they say
about trying again.
-/

namespace DatabaseLifecycle

/-- A field whose requested value differs from the reported one. -/
structure Mismatch where
  /-- The field's name in the request. -/
  field : String
  /-- The requested value. -/
  expected : String
  /-- The reported value. -/
  got : String
  deriving DecidableEq, Repr, Inhabited

/-- The wording of a mismatch. -/
def Mismatch.message (mismatch : Mismatch) : String :=
  "for '" ++ mismatch.field ++ "', expected: " ++ mismatch.expected ++ ", got: " ++ mismatch.got

/-- What the cluster says when it refuses a request. -/
structure Refusal where
  /-- Its word for the outcome. -/
  status : String
  /-- The explanation. -/
  message : String
  /-- The cause in one word. -/
  reason : String
  /-- The number of the cause. -/
  code : UInt16
  deriving DecidableEq, Repr, Inhabited

/-- The wording of a refusal. -/
def Refusal.wording (refusal : Refusal) : String :=
  "ApiError: " ++ refusal.message ++ ": " ++ refusal.reason ++ " (ErrorResponse \x7b status: "
    ++ Text.quoted refusal.status ++ ", message: " ++ Text.quoted refusal.message ++ ", reason: "
    ++ Text.quoted refusal.reason ++ ", code: " ++ toString refusal.code.toNat ++ " \x7d)"

/-- The causes for which the cluster does not carry out a request. -/
inductive ClusterFailure where
  /-- The cluster refused it. -/
  | refused (refusal : Refusal)
  /-- No request could be made of it; the causes go from the outermost to the innermost. -/
  | malformed (causes : List String)
  /-- The answer was no text. -/
  | garbled (cause : String)
  /-- The answer was not what was asked for. -/
  | undecodable (cause : String)
  /-- The cluster could not be reached; the causes go from the outermost to the innermost. -/
  | unreachable (causes : List String)
  deriving DecidableEq, Repr, Inhabited

/-- The wording of a cluster failure. -/
def ClusterFailure.message : ClusterFailure → String
  | .refused refusal => refusal.wording
  | .malformed causes => "Failed to build request: " ++ causes.headD ""
  | .garbled cause => "UTF-8 Error: " ++ cause
  | .undecodable cause => "Error deserializing response: " ++ cause
  | .unreachable causes => "ServiceError: " ++ causes.headD ""

/-- The causes for which a workflow or one of its calls fails. -/
inductive Error where
  /-- The cluster did not carry out a request. -/
  | cluster (failure : ClusterFailure)
  /-- Something that must be supplied is missing. -/
  | configuration (message : String)
  /-- A record contradicts itself and cannot be submitted. -/
  | validation (resource message : String)
  /-- Something that was looked up does not exist. -/
  | notFound (kind name : String)
  /-- A credential record is missing or incomplete. -/
  | invalidCredential (secret message : String)
  /-- A record has not reached the awaited status. -/
  | notReady (kind name status : String)
  /-- The reported backup schedule is not the requested one. -/
  | scheduleMismatch (mismatches : List Mismatch)
  /-- A lookup on the control plane failed, with the status of its answer if there was one. -/
  | controlPlane (operation : String) (status : Option UInt16) (message : String)
  /-- A text could not be read as a record of some kind. -/
  | serialization (kind : Option String) (message : String)
  /-- Something else failed. -/
  | internal (context message : String)
  deriving DecidableEq, Repr, Inhabited

namespace Error

/-- The wording of an error. -/
def message : Error → String
  | cluster failure => "kubernetes error: " ++ failure.message
  | configuration message => "configuration error: " ++ message
  | validation resource message => "validation error for " ++ resource ++ ": " ++ message
  | notFound kind name => kind ++ " '" ++ name ++ "' not found"
  | invalidCredential secret message =>
    "invalid credential in secret '" ++ secret ++ "': " ++ message
  | notReady kind name status =>
    kind ++ " '" ++ name ++ "' not ready, current status: '" ++ status ++ "'"
  | scheduleMismatch mismatches =>
    "schedule mismatch: " ++ "; ".intercalate (mismatches.map Mismatch.message)
  | controlPlane operation _ message => "control plane error in " ++ operation ++ ": " ++ message
  | serialization _ message => "serialization error: " ++ message
  | internal context message => "internal error [" ++ context ++ "]: " ++ message

/-- The wordings of the error and of each deeper cause it names. -/
def chain : Error → List String
  | cluster failure =>
    (cluster failure).message :: failure.message :: match failure with
      | .refused _ => []
      | .malformed causes => causes
      | .garbled cause => [cause]
      | .undecodable cause => [cause]
      | .unreachable causes => causes
  | other => [other.message]

/-- Whether the error says that something does not exist. -/
def isNotFound : Error → Bool
  | notFound _ _ => true
  | cluster (.refused refusal) => refusal.code == 404
  | controlPlane _ status _ => status == some 404
  | _ => false

/-- Whether a status number blames the request. -/
def blamesRequest (status : UInt16) : Bool := 400 ≤ status && status < 500

/-- Whether the same call may succeed later without a change to its inputs. -/
def isRetryable : Error → Bool
  | cluster (.refused refusal) => !(blamesRequest refusal.code && refusal.code != 429)
  | controlPlane _ (some status) _ => !blamesRequest status
  | configuration _ | validation _ _ | invalidCredential _ _ | scheduleMismatch _
  | serialization _ _ => false
  | _ => true

/-- The mismatches that the error lists. -/
def mismatches : Error → List Mismatch
  | scheduleMismatch mismatches => mismatches
  | _ => []

/-- The line that is logged when an operation fails for this cause. -/
def failureLine (operation : String) (error : Error) : String :=
  operation ++ "() failed! " ++ error.message

end Error

end DatabaseLifecycle

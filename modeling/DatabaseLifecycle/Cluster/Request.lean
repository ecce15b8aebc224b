import DatabaseLifecycle.Error
import DatabaseLifecycle.Http
import DatabaseLifecycle.Resource.Kind

/-!
Requests to the cluster: which path stands for which record. Names are put into paths as they are,
so a name that is not made for a path changes the path or spoils it.
-/

namespace DatabaseLifecycle.Cluster

/-- A request to the cluster. -/
structure Request where
  /-- What is asked for. -/
  method : Http.Method
  /-- The path, with its query if there is one. -/
  target : String
  /-- What is sent along. -/
  body : Option Document

/-- Whether a code point may stand in a path. -/
def isPathCode (code : Nat) : Bool :=
  code == 0x21 || code == 0x22 || 0x24 ≤ code && code ≤ 0x3B || code == 0x3D
    || 0x40 ≤ code && code ≤ 0x5F || 0x61 ≤ code && code ≤ 0x7E || 0x7F ≤ code

/-- Whether a code point may stand in a query. -/
def isQueryCode (code : Nat) : Bool :=
  code == 0x21 || 0x24 ≤ code && code ≤ 0x3B || code == 0x3D || 0x3F ≤ code

/-- The path and query of a text: what comes before a number sign, if each of its characters may
stand where it does. -/
def target? (text : String) : Option String :=
  let kept := text.toList.takeWhile (· != '#')
  let path := kept.takeWhile (· != '?')
  let query := (kept.dropWhile (· != '?')).drop 1
  if path.all (isPathCode ·.toNat) && query.all (isQueryCode ·.toNat) then
    some (String.ofList kept)
  else none

/-- The path of the records of a kind in a namespace. -/
def collectionPath (kind : Kind) (namespaceName : String) : String :=
  let root := match kind with
    | .server | .database => "/apis/" ++ kind.version
    | .secret | .pod | .service => "/api/" ++ kind.version
  root ++ "/namespaces/" ++ namespaceName ++ "/" ++ kind.plural

/-- A request, unless its path is spoilt. -/
def request (method : Http.Method) (path : String) (body : Option Document) :
    Except ClusterFailure Request :=
  match target? path with
  | some target => .ok { method, target, body }
  | none => .error (.malformed
      ["failed to build request: invalid uri character", "invalid uri character"])

/-- A request for one record, which must have a name. -/
def recordRequest (method : Http.Method) (kind : Kind) (namespaceName name : String)
    (body : Option Document) : Except ClusterFailure Request :=
  if name.isEmpty then
    .error (.malformed ["failed to validate request: A non-empty name is required"])
  else request method (collectionPath kind namespaceName ++ "/" ++ name) body

/-- The request that submits a record. -/
def createRequest (kind : Kind) (record : kind.Record) : Except ClusterFailure Request :=
  let namespaceName := (kind.metadata record).namespaceOr defaultNamespace
  request .post (collectionPath kind namespaceName) (some (kind.write record))

/-- The request that fetches a record. -/
def fetchRequest (kind : Kind) (namespaceName name : String) : Except ClusterFailure Request :=
  recordRequest .get kind namespaceName name none

/-- The request that deletes a record. -/
def deleteRequest (kind : Kind) (namespaceName name : String) : Except ClusterFailure Request :=
  recordRequest .delete kind namespaceName name (some (.object []))

end DatabaseLifecycle.Cluster

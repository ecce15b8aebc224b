import DatabaseLifecycle.Cluster.Address
import DatabaseLifecycle.Template
import DatabaseLifecycle.Text.Base64

/-!
Kubeconfig files: they name contexts, each of which says which cluster to talk to. The current
context decides where requests are sent. Of several files, the first to name something wins.
-/

namespace DatabaseLifecycle

/-- How one cluster is reached. -/
structure ClusterEntry where
  /-- The address of its server. -/
  server : Option String := none
  /-- The file that certifies the server. -/
  authorityFile : Option String := none
  /-- The certificate itself, in Base64. -/
  authorityData : Option String := none
  /-- The address of a proxy. -/
  proxy : Option String := none
  deriving DecidableEq, Inhabited

/-- What kubeconfig files say. -/
structure Kubeconfig where
  /-- The kind of the file. -/
  kind : Option String := none
  /-- The version of the format. -/
  version : Option String := none
  /-- The name of the context to use. -/
  currentContext : Option String := none
  /-- The contexts with their clusters' names. -/
  contexts : List (String × Option String) := []
  /-- The clusters. -/
  clusters : List (String × Option ClusterEntry) := []
  deriving DecidableEq, Inhabited

namespace Kubeconfig

/-- The causes for which kubeconfig files lead to no cluster. -/
inductive Fault where
  /-- No file is named and there is no home to look in. -/
  | nowhere
  /-- A file cannot be read. -/
  | unreadable (path reason : String)
  /-- A file is no YAML. -/
  | unparsable
  /-- A file does not have the structure of a kubeconfig file. -/
  | malformed
  /-- Two files differ in their kind. -/
  | kindMismatch
  /-- Two files differ in their version. -/
  | versionMismatch
  /-- No context is current. -/
  | noContext
  /-- The current context is not among the contexts. -/
  | unknownContext (name : String)
  /-- The cluster of the current context is not among the clusters. -/
  | unknownCluster (name : String)
  /-- The cluster has no server. -/
  | noServer
  /-- The server's address is none. -/
  | badServer (fault : Cluster.AddressFault)
  /-- The certificate cannot be read. -/
  | badAuthority
  /-- The proxy's address is none. -/
  | badProxy (fault : Cluster.AddressFault)
  deriving DecidableEq, Inhabited

/-- The wording of a fault. -/
def Fault.message : Fault → String
  | nowhere => "failed to find the path of kubeconfig"
  | unreadable path reason =>
    "failed to read kubeconfig from '" ++ Text.quoted path ++ "': " ++ reason
  | unparsable => "failed to parse kubeconfig YAML: unexpected content"
  | malformed => "the structure of the parsed kubeconfig is invalid: unexpected content"
  | kindMismatch => "kubeconfigs with mismatching kind cannot be merged"
  | versionMismatch => "kubeconfigs with mismatching api version cannot be merged"
  | noContext => "failed to determine current context"
  | unknownContext name => "failed to load current context: " ++ name
  | unknownCluster name => "failed to load the cluster of context: " ++ name
  | noServer => "cluster url is missing on selected cluster"
  | badServer fault => "failed to parse cluster url: " ++ fault.message
  | badAuthority => "failed to load certificate authority"
  | badProxy fault => "failed to parse proxy url: " ++ fault.message

/-! ## Reading -/

/-- The list of a field that may be missing or stand for nothing. -/
def readList? {α : Type} (record : Record Document) (key : String) (read : Document → Option α) :
    Option (List α) := do
  return (← record.optional? key (Source.list? read)).getD []

/-- A cluster as it is read. -/
def readCluster? (value : Document) : Option ClusterEntry := do
  let record ← Record.read?
    ["server", "insecure-skip-tls-verify", "certificate-authority", "certificate-authority-data",
      "proxy-url", "disable-compression", "tls-server-name", "extensions"] value
  let text (key : String) : Option (Option String) := record.optional? key Source.text?
  for key in ["insecure-skip-tls-verify", "disable-compression"] do
    let _ ← record.optional? key Source.bool?
  let _ ← text "tls-server-name"
  return {
    server := ← text "server"
    authorityFile := ← text "certificate-authority"
    authorityData := ← text "certificate-authority-data"
    proxy := ← text "proxy-url" }

/-- The name of a context's cluster as it is read. -/
def readContext? (value : Document) : Option String := do
  let record ← Record.read? ["cluster", "user", "namespace", "extensions"] value
  for key in ["user", "namespace"] do
    let _ ← record.optional? key Source.text?
  record.required? "cluster" Source.text?

/-- What identifies a user, as it is read. -/
def readUser? (value : Document) : Option Unit := do
  let texts := ["username", "password", "token", "tokenFile", "client-certificate",
    "client-certificate-data", "client-key", "client-key-data", "as"]
  let record ← Record.read? (texts ++ ["as-groups"]) value
  for key in texts do
    let _ ← record.optional? key Source.text?
  let _ ← record.optional? "as-groups" (Source.list? Source.text?)
  return ()

/-- Something with a name, as it is read. -/
def readNamed? {α : Type} (key : String) (read : Document → Option α) (value : Document) :
    Option (String × Option α) := do
  let record ← Record.read? ["name", key] value
  return (← record.required? "name" Source.text?, ← record.optional? key read)

/-- A file's content as it is read. -/
def read? (value : Document) : Option Kubeconfig := do
  let record ← Record.read?
    ["preferences", "clusters", "users", "contexts", "current-context", "extensions", "kind",
      "apiVersion"] value
  let text (key : String) : Option (Option String) := record.optional? key Source.text?
  let _ ← readList? record "users" (readNamed? "user" readUser?)
  return {
    kind := ← text "kind"
    version := ← text "apiVersion"
    currentContext := ← text "current-context"
    contexts := ← readList? record "contexts" (readNamed? "context" readContext?)
    clusters := ← readList? record "clusters" (readNamed? "cluster" readCluster?) }

/-- What a file's text says; a file without content says nothing. -/
def ofText (text : String) : Except Fault Kubeconfig :=
  match Yaml.read? text with
  | none => .error .unparsable
  | some value =>
    if value.isEmpty then .ok {}
    else
      match value.document? .any with
      | none => .error .unparsable
      | some document =>
        match read? document with
        | some kubeconfig => .ok kubeconfig
        | none => .error .malformed

/-- The directory that a path lies in. -/
def directoryOf (path : String) : String :=
  let parent := (path.toList.reverse.dropWhile (· != '/')).dropWhile (· == '/')
  if parent.isEmpty && path.startsWith "/" then "/" else String.ofList parent.reverse

/-- The path of a file that is named from a directory. -/
def pathFrom (directory file : String) : String :=
  if file.startsWith "/" then file else Template.pathIn directory file

/-- The file's content, with the files it names found from the directory it lies in. -/
def anchored (path : String) (kubeconfig : Kubeconfig) : Kubeconfig :=
  let anchor (entry : ClusterEntry) : ClusterEntry :=
    { entry with authorityFile := entry.authorityFile.map (pathFrom (directoryOf path)) }
  { kubeconfig with
    clusters := kubeconfig.clusters.map fun named => (named.1, named.2.map anchor) }

/-- The content of a file in some state. -/
def ofState (path : String) (state : PathState) : Except Fault Kubeconfig :=
  match Template.text state with
  | .error reason => .error (.unreadable path reason)
  | .ok none => .error (.unreadable path "No such file or directory (os error 2)")
  | .ok (some text) => (ofText text).map (anchored path)

/-! ## Joining -/

/-- The first list with what only the second names. -/
def withNew {α : Type} (first second : List (String × α)) : List (String × α) :=
  first ++ second.filter fun named => !first.any (·.1 == named.1)

/-- Whether two files can say different things of one field. -/
def differ (first second : Option String) : Bool :=
  first.isSome && second.isSome && first != second

/-- Two files as one, in which the first one wins. -/
def join (first second : Kubeconfig) : Except Fault Kubeconfig :=
  if differ first.kind second.kind then .error .kindMismatch
  else if differ first.version second.version then .error .versionMismatch
  else .ok {
    kind := first.kind <|> second.kind
    version := first.version <|> second.version
    currentContext := first.currentContext <|> second.currentContext
    contexts := withNew first.contexts second.contexts
    clusters := withNew first.clusters second.clusters }

/-! ## Choosing the cluster -/

/-- What a list says under a name. -/
def entry? {α : Type} (name : String) (entries : List (String × Option α)) : Option α :=
  (entries.lookup name).join

/-- The cluster of the current context. -/
def cluster (kubeconfig : Kubeconfig) : Except Fault ClusterEntry :=
  match kubeconfig.currentContext with
  | none => .error .noContext
  | some context =>
    match entry? context kubeconfig.contexts with
    | none => .error (.unknownContext context)
    | some name =>
      match entry? name kubeconfig.clusters with
      | none => .error (.unknownCluster name)
      | some entry => .ok entry

/-- The address of a cluster's server. -/
def address (entry : ClusterEntry) : Except Fault Cluster.Address :=
  match entry.server with
  | none => .error .noServer
  | some server => (Cluster.Address.read server).mapError .badServer

/-- Refuses a proxy whose address is none. -/
def checkProxy (entry : ClusterEntry) : Except Fault Unit :=
  match entry.proxy.filter (!·.isEmpty) with
  | none => .ok ()
  | some proxy => ((Cluster.Address.read proxy).map fun _ => ()).mapError .badProxy

section Loading

variable {m : Type → Type} [Monad m]

/-- Refuses a certificate that cannot be read, given how paths are looked up. -/
def checkAuthority (look : String → m PathState) (entry : ClusterEntry) :
    m (Except Fault Unit) := do
  match entry.authorityData, entry.authorityFile with
  | some data, _ =>
    return if (Text.Base64.decode? data).isSome then .ok () else .error .badAuthority
  | none, some file =>
    match ← look file with
    | .file _ => return .ok ()
    | _ => return .error .badAuthority
  | none, none => return .ok ()

/-- The address of the cluster that is current. -/
def chosen (look : String → m PathState) (kubeconfig : Kubeconfig) :
    ExceptT Fault m Cluster.Address := do
  let entry ← ExceptT.mk (pure kubeconfig.cluster)
  let address ← ExceptT.mk (pure (address entry))
  ExceptT.mk (checkAuthority look entry)
  ExceptT.mk (pure (checkProxy entry))
  return address

/-- What the file at a path says. -/
def load (look : String → m PathState) (path : String) : ExceptT Fault m Kubeconfig :=
  ExceptT.mk do return ofState path (← look path)

/-- What the files at some paths say together. -/
def loadAll (look : String → m PathState) (paths : List String) : ExceptT Fault m Kubeconfig :=
  paths.foldlM (fun joined path => do
    ExceptT.mk (pure (joined.join (← load look path)))) {}

/-- The paths that a list with colons between them names. -/
def paths (list : String) : List String :=
  (list.splitOn ":").filter (!·.isEmpty)

/-- What the files say that the environment names, or else the file in the user's home. -/
def loadDefault (look : String → m PathState) (valueOf : String → m (Option String)) :
    ExceptT Fault m Kubeconfig := do
  match paths ((← valueOf "KUBECONFIG").getD "") with
  | [] =>
    match (← valueOf "HOME").filter (!·.isEmpty) with
    | some home => load look (pathFrom home ".kube/config")
    | none => throw .nowhere
  | named => loadAll look named

end Loading

/-- The name of the operation that finds the cluster. -/
def operation : String := "connect"

/-- The error of a file that was named. -/
def Fault.ofReading (fault : Fault) : Error :=
  .internal operation ("failed to read kubeconfig: " ++ fault.message)

/-- The error of a file that leads to no cluster. -/
def Fault.ofChoosing (fault : Fault) : Error :=
  .internal operation ("failed to load kubeconfig: " ++ fault.message)

/-- The error when no file is named and none that is found leads to a cluster. -/
def Fault.ofGuessing (fault : Fault) : Error :=
  .internal operation ("failed to infer config: failed to infer config: in-cluster: "
    ++ "(failed to read an incluster environment variable: environment variable not found), "
    ++ "kubeconfig: (" ++ fault.message ++ ")")

/-- The address of the cluster that a named file, or else the environment, leads to. -/
def connect {m : Type → Type} [Monad m] (look : String → m PathState)
    (valueOf : String → m (Option String)) (file : Option String) :
    m (Except Error Cluster.Address) :=
  match file with
  | some path => ExceptT.run do
    let kubeconfig ← (load look path).adapt Fault.ofReading
    (kubeconfig.chosen look).adapt Fault.ofChoosing
  | none => ExceptT.run
    ((loadDefault look valueOf >>= chosen look).adapt Fault.ofGuessing)

end Kubeconfig

end DatabaseLifecycle

import DatabaseLifecycle.Resource.Bundle
import DatabaseLifecycle.Error
import DatabaseLifecycle.Yaml.Reader

/-!
Templates: the YAML files of a directory that a bundle is read from. A missing file leaves its
record absent; files with other names do not matter.
-/

namespace DatabaseLifecycle

/-- What lies under a path. -/
inductive PathState where
  /-- Nothing. -/
  | absent
  /-- A directory. -/
  | directory
  /-- A file that cannot be read, for this reason. -/
  | unreadable (reason : String)
  /-- A file with these bytes. -/
  | file (bytes : List UInt8)
  deriving Inhabited

namespace Template

/-- The names of the template files. -/
def databaseSecretFile : String := "database-secret.yaml"

@[inherit_doc databaseSecretFile] def serverSecretFile : String := "server-secret.yaml"
@[inherit_doc databaseSecretFile] def serverFile : String := "server.yaml"
@[inherit_doc databaseSecretFile] def databaseFile : String := "database.yaml"
@[inherit_doc databaseSecretFile] def workloadFile : String := "app-pod.yaml"

/-- The path of a file in a directory. -/
def pathIn (directory file : String) : String :=
  if directory.isEmpty || directory.endsWith "/" then directory ++ file
  else directory ++ "/" ++ file

/-- The refusal to read a file. -/
def readFailure (path reason : String) : Error :=
  .configuration ("failed to read '" ++ path ++ "': " ++ reason)

/-- The text of a file that is there, or the reason why there is none. -/
def text (state : PathState) : Except String (Option String) :=
  match state with
  | .absent => .ok none
  | .directory => .error "Is a directory (os error 21)"
  | .unreadable reason => .error reason
  | .file bytes =>
    match Text.Utf8.decode? bytes with
    | some text => .ok (some text)
    | none => .error "stream did not contain valid UTF-8"

/-- The record of a template that is there. -/
def record {α : Type} (read : Yaml.Value → Option α) (path file : String) (state : PathState) :
    Except Error (Option α) :=
  match text state with
  | .error reason => .error (readFailure path reason)
  | .ok none => .ok none
  | .ok (some text) =>
    match Yaml.read? text >>= read with
    | some record => .ok (some record)
    | none => .error (.serialization (some file)
        ("invalid template '" ++ path ++ "': not a record of its kind"))

section Loading

variable {m : Type → Type} [Monad m]

/-- The record of one template in a directory, given how paths are looked up. -/
def load {α : Type} (look : String → m PathState) (directory file : String)
    (read : Yaml.Value → Option α) : ExceptT Error m (Option α) :=
  ExceptT.mk do
    let path := pathIn directory file
    return record read path file (← look path)

/-- The bundle of the templates in a directory that exists. -/
def loadAll (look : String → m PathState) (directory : String) : ExceptT Error m Bundle := do
  return {
    databaseSecret := ← load look directory databaseSecretFile Secret.read?
    serverSecret := ← load look directory serverSecretFile Secret.read?
    server := ← load look directory serverFile Server.read?
    database := ← load look directory databaseFile Database.read?
    workload := ← load look directory workloadFile Pod.read? }

/-- The bundle of the templates in a directory. -/
def loadBundle (look : String → m PathState) (directory : String) : m (Except Error Bundle) := do
  match ← look directory with
  | .directory => (loadAll look directory).run
  | _ =>
    return .error (.configuration ("template directory '" ++ directory ++ "' does not exist"))

end Loading

end Template

end DatabaseLifecycle

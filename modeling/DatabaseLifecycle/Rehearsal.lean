import DatabaseLifecycle.Store.Records
import DatabaseLifecycle.Workflow.Call

/-!
Rehearsals: workflows run without a cluster and without a control plane. Records lie in a map, time
passes only when a workflow sleeps, and cues say which calls are answered in another way.
-/

namespace DatabaseLifecycle

/-- How one call is to be answered. -/
inductive Cue where
  /-- As the record map has it. -/
  | plain
  /-- It fails. -/
  | fail (error : Error)
  /-- It succeeds with this value and changes nothing. -/
  | give (value : Document)
  /-- A fetched record is shown with this status. -/
  | shown (status : Document)
  /-- A deletion succeeds and deletes nothing. -/
  | keep
  deriving Inhabited

/-- The cues of operations, each list in the order of the calls; the last cue of a list stays. -/
abbrev Cues : Type := List (String × List Cue)

namespace Cues

/-- The cue for the next call of an operation, and the cues after it. -/
def next (cues : Cues) (operation : String) : Cue × Cues :=
  match cues.lookup operation with
  | some (cue :: following :: rest) =>
    (cue, cues.map fun entry =>
      if entry.1 == operation then (operation, following :: rest) else entry)
  | some [cue] => (cue, cues)
  | _ => (.plain, cues)

end Cues

/-- A rehearsal under way. -/
structure Rehearsal where
  /-- The records of the cluster. -/
  records : RecordMap := .empty
  /-- The cues for calls to the cluster. -/
  storeCues : Cues := []
  /-- The cues for calls to the control plane. -/
  lookupCues : Cues := []
  /-- The calls so far, the last one first. -/
  calls : List Call := []
  /-- The lines logged so far, the last one first. -/
  lines : List String := []
  /-- The milliseconds that have passed. -/
  elapsed : Nat := 0
  deriving Inhabited

namespace Rehearsal

/-- The rehearsal after a call. -/
def heard (rehearsal : Rehearsal) (call : Call) : Rehearsal :=
  { rehearsal with calls := call :: rehearsal.calls }

/-- The failure of a call whose cue holds no value of the right kind. -/
def unusable : Error := .internal "rehearsal" "unusable cue"

/-- The next cue for the cluster. -/
def nextStoreCue (rehearsal : Rehearsal) (operation : String) : Cue × Rehearsal :=
  let (cue, storeCues) := rehearsal.storeCues.next operation
  (cue, { rehearsal with storeCues })

/-- The next cue for the control plane. -/
def nextLookupCue (rehearsal : Rehearsal) (operation : String) : Cue × Rehearsal :=
  let (cue, lookupCues) := rehearsal.lookupCues.next operation
  (cue, { rehearsal with lookupCues })

/-- A value that a cue gives, or a failure if it cannot be read. -/
def given {α : Type} (value : Option α) : Except Error α :=
  match value with
  | some value => .ok value
  | none => .error unusable

/-- The refusal to create a record that exists. -/
def alreadyExists (kind : Kind) (name : String) : Error :=
  let message := kind.name ++ " " ++ name ++ " already exists"
  .cluster (.refused ⟨"Failure", message, "AlreadyExists", 409⟩)

/-- A record shown with another status. -/
def withStatus (kind : Kind) (record : kind.Record) (status : Document) :
    Except Error kind.Record :=
  match kind.write record with
  | .object fields => given (kind.read? (Document.object
      (fields.filter (·.1 != "status") ++ [("status", status)])))
  | _ => .error unusable

/-- Answers a submission. -/
def create (kind : Kind) (record : kind.Record) (rehearsal : Rehearsal) :
    Except Error kind.Record × Rehearsal :=
  let (cue, rehearsal) := rehearsal.nextStoreCue ("create_" ++ kind.word)
  match cue with
  | .fail error => (.error error, rehearsal)
  | .give value => (given (kind.read? value), rehearsal)
  | _ =>
    match rehearsal.records.create kind record with
    | (some record, records) => (.ok record, { rehearsal with records })
    | (none, _) => (.error (alreadyExists kind (kind.metadata record).effectiveName), rehearsal)

/-- Answers a request for a record. -/
def fetch (kind : Kind) (namespaceName name : String) (rehearsal : Rehearsal) :
    Except Error kind.Record × Rehearsal :=
  let (cue, rehearsal) := rehearsal.nextStoreCue ("get_" ++ kind.word)
  let found := match rehearsal.records.get? kind (.of namespaceName name) with
    | some record => .ok record
    | none => .error (.notFound kind.name (namespaceName ++ "/" ++ name))
  match cue with
  | .fail error => (.error error, rehearsal)
  | .give value => (given (kind.read? value), rehearsal)
  | .shown status => (found.bind fun record => withStatus kind record status, rehearsal)
  | _ => (found, rehearsal)

/-- Answers a deletion. -/
def delete (kind : Kind) (namespaceName name : String) (rehearsal : Rehearsal) :
    Except Error Unit × Rehearsal :=
  let (cue, rehearsal) := rehearsal.nextStoreCue ("delete_" ++ kind.word)
  match cue with
  | .fail error => (.error error, rehearsal)
  | .keep => (.ok (), rehearsal)
  | _ =>
    (.ok (), { rehearsal with records := rehearsal.records.erase kind (.of namespaceName name) })

/-- Answers a lookup; without a cue there is nothing to find. -/
def lookup (wanted : Lookup) (rehearsal : Rehearsal) : Except Error wanted.Found × Rehearsal :=
  let (cue, rehearsal) := rehearsal.nextLookupCue wanted.operation
  match cue with
  | .fail error => (.error error, rehearsal)
  | .give value => (given (wanted.read? value), rehearsal)
  | _ => (.error (.controlPlane wanted.operation (some 404) "not scripted"), rehearsal)

/-- Answers an attempt to connect. -/
def connect (rehearsal : Rehearsal) : Except Error Unit × Rehearsal :=
  let (cue, rehearsal) := rehearsal.nextLookupCue "connect"
  match cue with
  | .fail error => (.error error, rehearsal)
  | _ => (.ok (), rehearsal)

/-- Answers the calls of workflows. -/
def answer : Program.Handler Call.interface Rehearsal
  | .create kind record, rehearsal => create kind record (rehearsal.heard (.create kind record))
  | .fetch kind namespaceName name, rehearsal =>
    fetch kind namespaceName name (rehearsal.heard (.fetch kind namespaceName name))
  | .delete kind namespaceName name, rehearsal =>
    delete kind namespaceName name (rehearsal.heard (.delete kind namespaceName name))
  | .connect credentials, rehearsal => connect (rehearsal.heard (.connect credentials))
  | .lookup wanted, rehearsal => lookup wanted (rehearsal.heard (.lookup wanted))
  | .sleep milliseconds, rehearsal =>
    ((), { rehearsal with elapsed := rehearsal.elapsed + milliseconds })
  | .log line, rehearsal => ((), { rehearsal with lines := line :: rehearsal.lines })

/-- A rehearsal with nothing heard of what went before. -/
def quiet (rehearsal : Rehearsal) : Rehearsal :=
  { rehearsal with calls := [], lines := [], elapsed := 0 }

end Rehearsal

end DatabaseLifecycle

import DatabaseLifecycle.Cluster.Client
import DatabaseLifecycle.Proofs.Cluster.Path
import DatabaseLifecycle.Proofs.Resource.Written
import DatabaseLifecycle.Proofs.Text.Utf8
import DatabaseLifecycle.Store.Records

/-!
A server that keeps documents under their kind, namespace and name, and what the client reads from
its answers. The server knows documents only; it refuses to create what is there and to show or
delete what is not.
-/

namespace DatabaseLifecycle.Cluster

/-- What a server keeps: documents under a kind, a namespace and a name. -/
abbrev Shelf : Type := Kind → RecordKey → Option Document

namespace Shelf

/-- A shelf with nothing on it. -/
def empty : Shelf := fun _ _ => none

/-- The shelf with this document, or none, under a key. -/
def put (shelf : Shelf) (kind : Kind) (key : RecordKey) (content : Option Document) : Shelf :=
  fun other wanted => if other = kind ∧ wanted = key then content else shelf other wanted

end Shelf

/-- A server, with what it chooses freely: its wordings, and how it confirms a deletion. -/
structure ApiServer where
  /-- How it refuses to create what is there. -/
  conflict : Kind → RecordKey → Refusal
  /-- How it refuses to show or delete what is not there. -/
  absence : Kind → RecordKey → Refusal
  /-- Whether it answers a deletion with the record as it was. -/
  showsDeleted : Kind → Bool
  /-- What is there is refused with 409. -/
  conflict_code : ∀ kind key, (conflict kind key).code = 409
  /-- What is not there is refused with 404. -/
  absence_code : ∀ kind key, (absence kind key).code = 404

/-- The name that a submitted document gives itself. -/
def nameOf? (document : Document) : Option String := do
  Source.text? (← (← document.find? "metadata").find? "name")

/-- The document that says a refusal. -/
def refusalDocument (refusal : Refusal) : Document :=
  .ofFields [
    ("kind", some (.text "Status")),
    ("apiVersion", some (.text "v1")),
    ("metadata", some (.object [])),
    ("status", some (.text refusal.status)),
    ("message", some (.text refusal.message)),
    ("reason", some (.text refusal.reason)),
    ("code", some (.integer refusal.code.toNat))]

/-- A refusal as it is answered. -/
def refused (refusal : Refusal) : Http.Response :=
  .ofText refusal.code (Json.write (refusalDocument refusal))

/-- The document that confirms a deletion. -/
def confirmation : Document :=
  .ofFields [
    ("kind", some (.text "Status")),
    ("apiVersion", some (.text "v1")),
    ("metadata", some (.object [])),
    ("status", some (.text "Success"))]

/-- A deletion as it is confirmed. -/
def confirmed : Http.Response := .ofText 200 (Json.write confirmation)

namespace ApiServer

variable (server : ApiServer)

/-- The answer to a submission, and what is kept after it. -/
def submit (kind : Kind) (key : RecordKey) (document : Document) (shelf : Shelf) :
    Http.Response × Shelf :=
  match shelf kind key with
  | some _ => (refused (server.conflict kind key), shelf)
  | none => (.ofText 201 (Json.write document), shelf.put kind key (some document))

/-- The answer to a request for a record. -/
def display (kind : Kind) (key : RecordKey) (shelf : Shelf) : Http.Response :=
  match shelf kind key with
  | some document => .ofText 200 (Json.write document)
  | none => refused (server.absence kind key)

/-- The answer to a deletion, and what is kept after it. -/
def remove (kind : Kind) (key : RecordKey) (shelf : Shelf) : Http.Response × Shelf :=
  match shelf kind key with
  | some document =>
    (if server.showsDeleted kind then .ofText 200 (Json.write document) else confirmed,
      shelf.put kind key none)
  | none => (refused (server.absence kind key), shelf)

/-- The answer to a request, and what is kept after it. -/
def answer (request : Request) (shelf : Shelf) : Http.Response × Shelf :=
  match Location.ofPath? request.target with
  | none => (.ofText 404 "404 page not found", shelf)
  | some ⟨kind, namespaceName, none⟩ =>
    match request.method, request.body >>= fun document => (nameOf? document).map (·, document) with
    | .post, some (name, document) => server.submit kind ⟨namespaceName, name⟩ document shelf
    | _, _ => (.ofText 422 "", shelf)
  | some ⟨kind, namespaceName, some name⟩ =>
    match request.method with
    | .get => (server.display kind ⟨namespaceName, name⟩ shelf, shelf)
    | .delete => server.remove kind ⟨namespaceName, name⟩ shelf
    | .post => (.ofText 405 "", shelf)

/-- How requests are sent to the server. -/
def send : Transport (StateM Shelf) := fun request shelf =>
  (.ok (server.answer request shelf).1, (server.answer request shelf).2)

end ApiServer

/-! ### What the client reads -/

/-- A whole number within the bounds is read as a number of 16 bits without sign. -/
theorem natural16?_integer {value : Int} (positive : 0 ≤ value) (small : value < UInt16.size) :
    Source.natural16? (Document.integer value) = some value.toNat.toUInt16 := by
  have within : (0 ≤ value && value < UInt16.size) = true := by
    rw [Bool.and_eq_true, decide_eq_true_eq, decide_eq_true_eq]
    exact ⟨positive, small⟩
  unfold Source.natural16?
  simp only [Source.integer?]
  exact if_pos within

/-- A code is read back. -/
theorem natural16?_code (code : UInt16) :
    Source.natural16? (Document.integer code.toNat) = some code := by
  have same : code.toNat.toUInt16 = code := UInt16.ofNat_toNat
  rw [natural16?_integer (Int.natCast_nonneg _) (Int.ofNat_lt.mpr code.toNat_lt_size),
    Int.toNat_natCast, same]

/-- The document of a refusal is plain. -/
theorem isPlain_refusalDocument (said : Refusal) : (refusalDocument said).isPlain 2 = true := by
  -- The code has 16 bits, so it is far below the bound.
  have code : Document.IsPlainField 1 (some (.integer said.code.toNat)) := by
    have small := said.code.toNat_lt
    have within : said.code.toNat < Document.sizeBound := by
      simp only [Document.sizeBound]
      omega
    intro document held
    cases held
    simpa [Document.isPlain] using within
  have nothing : Document.IsPlainField 1 (some (.object [])) := by
    intro document held
    cases held
    rfl
  refine Document.isPlain_ofFields ?_
  simp [Document.Restores.text.plain_some, code, nothing]

/-- A refusal is read as it was meant, whatever the status of its answer. -/
theorem refusal_write (status : UInt16) (said : Refusal) :
    refusal status (Json.write (refusalDocument said)) = said := by
  have read : readRefusal? (refusalDocument said) = some said := by
    -- The kernel must not compute with the bound of the code, so every step is a lemma.
    simp -implicitDefEqProofs [readRefusal?, refusalDocument, Record.read?_ofFields,
      Record.required?_written, Record.orDefault?_written, List.lookup_cons,
      Document.Restores.text.read_write, natural16?_code]
  rw [refusal, Json.read_write (isPlain_refusalDocument said), Option.bind_eq_bind,
    Option.bind_some, read]

/-- An answer with a text is a refusal or that text. -/
theorem accepted_of_text {response : Http.Response} {text : String}
    (shown : Text.Utf8.decode response.body = .ok text) :
    accepted response = if Http.isFailure response.status
      then .error (.refused (refusal response.status text)) else .ok text := by
  rw [accepted, shown]
  rfl

/-- An answer without a text is not accepted. -/
theorem accepted_of_garbled {response : Http.Response} {fault : String}
    (garbled : Text.Utf8.decode response.body = .error fault) :
    accepted response = .error (.garbled fault) := by
  rw [accepted, garbled]
  rfl

/-- An answer that refuses is not accepted. -/
theorem accepted_refused {said : Refusal} (fails : Http.isFailure said.code = true) :
    accepted (refused said) = .error (.refused said) := by
  rw [refused, accepted_of_text (Text.Utf8.decode_encode _), refusal_write]
  exact if_pos fails

/-- The text of an answer that does not refuse is accepted. -/
theorem accepted_text {status : UInt16} (succeeds : Http.isFailure status = false) (text : String) :
    accepted (.ofText status text) = .ok text := by
  rw [accepted_of_text (Text.Utf8.decode_encode _)]
  exact if_neg (by rw [Http.Response.ofText, succeeds]; decide)

/-- A record that is shown is read. -/
theorem readRecord_shown (kind : Kind) (record : kind.Record) {status : UInt16}
    (succeeds : Http.isFailure status = false) :
    readRecord kind (.ofText status (Json.write (kind.write record))) = .ok record := by
  rw [readRecord, accepted_text succeeds]
  show decoded (Json.read (Json.write (kind.write record)) >>= kind.read?) = _
  rw [kind.read_writtenText]
  rfl

/-- A refusal to show a record is read as the refusal. -/
theorem readRecord_refused (kind : Kind) {said : Refusal}
    (fails : Http.isFailure said.code = true) :
    readRecord kind (refused said) = .error (.refused said) := by
  rw [readRecord, accepted_refused fails]
  rfl

/-- A refusal to delete a record is read as the refusal. -/
theorem readDeletion_refused (kind : Kind) {said : Refusal}
    (fails : Http.isFailure said.code = true) :
    readDeletion kind (refused said) = .error (.refused said) := by
  rw [readDeletion, accepted_refused fails]
  rfl

/-- An answer to a deletion that is not too deep is told apart by the kind it names. -/
theorem readDeletion_write (kind : Kind) {document : Document} {depth : Nat}
    (plain : document.isPlain depth = true) (shallow : depth ≤ answerDepth) :
    readDeletion kind (.ofText 200 (Json.write document))
      = match document.find? "kind" with
        | some (.text "Status") => decoded (readStatus? document)
        | _ => decoded ((kind.read? document).map fun _ => ()) := by
  -- The whole answer is kept only if it is not too deep, so the depth is needed here.
  have readable : document.isReadable answerDepth = true :=
    Document.isReadable_of_isPlain document (Document.isPlain_mono document shallow plain)
  have kept : (Json.read (Json.write document)).filter (·.isReadable answerDepth)
      = some document := by
    rw [Json.read_write plain, Option.filter_some, if_pos readable]
  rw [readDeletion, accepted_text rfl]
  show (decoded ((Json.read (Json.write document)).filter (·.isReadable answerDepth)) >>= _) = _
  rw [kept]
  rfl

/-- A confirmation is read as one. -/
theorem readDeletion_confirmed (kind : Kind) : readDeletion kind confirmed = .ok () := by
  have status : confirmation.find? "kind" = some (.text "Status") := by
    simp [confirmation, Document.find?_ofFields]
  have read : readStatus? confirmation = some () := by
    simp [readStatus?, confirmation, Record.read?_ofFields, Record.optional?_written,
      Record.orDefault?_written, List.lookup_cons, Record.field?, Source.orAbsent?, Source.isAbsent?,
      readSummary?]
  -- What says that it is a status is not read as a record.
  rw [confirmed, readDeletion_write kind (show confirmation.isPlain 2 = true by decide) (by decide),
    status]
  show decoded (readStatus? confirmation) = _
  rw [read]
  rfl

/-- A written record names its kind. -/
theorem find?_kind_write (kind : Kind) (record : kind.Record) :
    (kind.write record).find? "kind" = some (.text kind.name) := by
  cases kind <;>
    simp [Kind.write, Kind.name, Secret.write, Server.write, Database.write, Pod.write,
      Service.write, Document.find?_ofFields, List.lookup_cons]

/-- A deleted record that is shown confirms its deletion. -/
theorem readDeletion_shown (kind : Kind) (record : kind.Record) :
    readDeletion kind (.ofText 200 (Json.write (kind.write record))) = .ok () := by
  have read : decoded ((kind.read? (kind.write record)).map fun _ => ()) = .ok () := by
    rw [kind.restores.read_write]
    rfl
  rw [readDeletion_write kind (kind.restores.plain record) (by decide), find?_kind_write]
  -- No kind is called as the status of a request is.
  cases kind <;> exact read

/-- A written record gives itself the name that it has. -/
theorem nameOf?_write (kind : Kind) (record : kind.Record) :
    nameOf? (kind.write record) = (kind.metadata record).name := by
  -- Every kind writes its metadata under the same key, and the metadata writes the name.
  have described : (kind.write record).find? "metadata" = some (kind.metadata record).write := by
    cases kind <;>
      simp [Kind.write, Kind.metadata, Secret.write, Server.write, Database.write, Pod.write,
        Service.write, Document.find?_ofFields, List.lookup_cons]
  have named : (kind.metadata record).write.find? "name"
      = (kind.metadata record).name.map .text := by
    simp [Metadata.write, Document.find?_ofFields, List.lookup_cons]
  rw [nameOf?, described, Option.bind_eq_bind, Option.bind_some, named]
  cases (kind.metadata record).name <;> rfl

namespace ApiServer

variable (server : ApiServer) (shelf : Shelf) {namespaceName name : String}

/-- A refusal to create is a failure. -/
theorem isFailure_conflict (kind : Kind) (key : RecordKey) :
    Http.isFailure (server.conflict kind key).code = true := by
  rw [server.conflict_code]
  decide

/-- A refusal to show or delete is a failure. -/
theorem isFailure_absence (kind : Kind) (key : RecordKey) :
    Http.isFailure (server.absence kind key).code = true := by
  rw [server.absence_code]
  decide

/-- A record that is posted to its collection is submitted under its name. -/
theorem answer_post (kind : Kind) (record : kind.Record) (plain : IsPathText namespaceName)
    (named : (kind.metadata record).name = some name) :
    server.answer ⟨.post, collectionPath kind namespaceName, some (kind.write record)⟩ shelf
      = server.submit kind ⟨namespaceName, name⟩ (kind.write record) shelf := by
  simp [answer, ofPath?_collectionPath kind plain, nameOf?_write, named]

/-- A record that is asked for at its path is displayed. -/
theorem answer_get (kind : Kind) (plain : IsPathText namespaceName) (named : IsPathText name)
    (body : Option Document) :
    server.answer ⟨.get, collectionPath kind namespaceName ++ "/" ++ name, body⟩ shelf
      = (server.display kind ⟨namespaceName, name⟩ shelf, shelf) := by
  simp [answer, ofPath?_recordPath kind plain named]

/-- A record that is deleted at its path is removed. -/
theorem answer_delete (kind : Kind) (plain : IsPathText namespaceName) (named : IsPathText name)
    (body : Option Document) :
    server.answer ⟨.delete, collectionPath kind namespaceName ++ "/" ++ name, body⟩ shelf
      = server.remove kind ⟨namespaceName, name⟩ shelf := by
  simp [answer, ofPath?_recordPath kind plain named]

/-- A request that goes out is answered, and the answer is read. -/
theorem exchange_run {α : Type} (request : Request)
    (read : Http.Response → Except ClusterFailure α) :
    (exchange server.send (.ok request) read).run shelf
      = (read (server.answer request shelf).1, (server.answer request shelf).2) := rfl

end ApiServer

end DatabaseLifecycle.Cluster

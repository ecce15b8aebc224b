import DatabaseLifecycle.Proofs.Cluster.Server
import DatabaseLifecycle.Proofs.Store.Records

/-!
One operation of the client on a server that keeps documents: it is answered as a record map answers
it, and the server keeps afterwards what the record map holds.
-/

namespace DatabaseLifecycle.Cluster

/-- An operation on the records of the cluster. -/
inductive Operation where
  /-- A record is submitted. -/
  | create (kind : Kind) (record : kind.Record)
  /-- A record is fetched. -/
  | fetch (kind : Kind) (namespaceName name : String)
  /-- A record is deleted. -/
  | delete (kind : Kind) (namespaceName name : String)

namespace Operation

/-- The reply to an operation. -/
@[reducible] def Reply : Operation → Type
  | create kind _ => Except Error kind.Record
  | fetch kind _ _ => Except Error kind.Record
  | delete _ _ _ => Except Error Unit

/-- The operation as the client carries it out. -/
def carriedOut {m : Type → Type} [Monad m] (send : Transport m) :
    (operation : Operation) → m operation.Reply
  | create kind record => Cluster.create send kind record
  | fetch kind namespaceName name => Cluster.fetch send kind namespaceName name
  | delete kind namespaceName name => Cluster.delete send kind namespaceName name

/-- The kind of the record that an operation is about. -/
def kind : Operation → Kind
  | create kind _ => kind
  | fetch kind _ _ => kind
  | delete kind _ _ => kind

/-- The key of the record that an operation is about. -/
def key : Operation → RecordKey
  | create kind record => .ofMetadata (kind.metadata record)
  | fetch _ namespaceName name => ⟨namespaceName, name⟩
  | delete _ namespaceName name => ⟨namespaceName, name⟩

/-- Whether an operation names a record as the cluster's records are named. A submitted record need
not name its namespace. -/
def IsWellNamed : Operation → Prop
  | create kind record =>
    (∃ name, (kind.metadata record).name = some name ∧ IsName name)
      ∧ ∀ namespaceName ∈ (kind.metadata record).namespaceName, IsPathText namespaceName
  | fetch _ namespaceName name => IsPathText namespaceName ∧ IsName name
  | delete _ namespaceName name => IsPathText namespaceName ∧ IsName name

/-- What a record map answers, with the refusals of a server. -/
def answeredBy (server : ApiServer) (records : RecordMap) :
    (operation : Operation) → operation.Reply
  | create kind record =>
    let key := RecordKey.ofMetadata (kind.metadata record)
    match records.get? kind key with
    | some _ => .error (.cluster (.refused (server.conflict kind key)))
    | none => .ok record
  | fetch kind namespaceName name =>
    match records.get? kind ⟨namespaceName, name⟩ with
    | some record => .ok record
    | none => .error (.notFound kind.name (namespaceName ++ "/" ++ name))
  | delete _ _ _ => .ok ()

/-- What a record map holds after an operation. -/
def appliedTo (records : RecordMap) : Operation → RecordMap
  | create kind record => (records.create kind record).2
  | fetch _ _ _ => records
  | delete kind namespaceName name => records.erase kind ⟨namespaceName, name⟩

end Operation

/-- A shelf holds what a record map holds, each record as it is written. -/
def Shelf.Represents (shelf : Shelf) (records : RecordMap) : Prop :=
  ∀ kind key, shelf kind key = (records.get? kind key).map kind.write

/-! ### One operation -/

section Step

variable (server : ApiServer) {shelf : Shelf} {records : RecordMap}

/-- Two shelves that hold what one record map holds are equal. -/
theorem Shelf.Represents.unique {other : Shelf} (represents : shelf.Represents records)
    (same : other.Represents records) : shelf = other :=
  funext fun kind => funext fun key => (represents kind key).trans (same kind key).symm

/-- Taking nothing off the shelf changes nothing. -/
theorem Shelf.put_none {kind : Kind} {key : RecordKey} (free : shelf kind key = none) :
    shelf.put kind key none = shelf := by
  funext other wanted
  unfold Shelf.put
  -- Where the shelf is asked elsewhere it answers as before, and here it had nothing.
  split
  case isTrue here => rw [here.1, here.2, free]
  case isFalse => rfl

/-- A record that is put on the shelf is held by both. -/
theorem Shelf.Represents.insert (represents : shelf.Represents records) (kind : Kind)
    (key : RecordKey) (record : kind.Record) :
    (shelf.put kind key (some (kind.write record))).Represents
      (records.insert kind key record) := by
  intro other wanted
  unfold Shelf.put
  -- Records of other kinds are kept apart, so only this kind is compared key by key.
  by_cases same : other = kind
  · subst same
    rw [RecordMap.get?_insert, represents other wanted]
    by_cases here : wanted = key <;> simp [here]
  · rw [RecordMap.get?_insert_of_ne (Ne.symm same), if_neg fun both => same both.1,
      represents other wanted]

/-- A record that is taken off the shelf is held by neither. -/
theorem Shelf.Represents.erase (represents : shelf.Represents records) (kind : Kind)
    (key : RecordKey) : (shelf.put kind key none).Represents (records.erase kind key) := by
  intro other wanted
  unfold Shelf.put
  by_cases same : other = kind
  · subst same
    rw [RecordMap.get?_erase, represents other wanted]
    by_cases here : wanted = key <;> simp [here]
  · rw [RecordMap.get?_erase_of_ne (Ne.symm same), if_neg fun both => same both.1,
      represents other wanted]

/-- The default namespace may be put into a path. -/
theorem isPathText_defaultNamespace : IsPathText defaultNamespace := by decide

/-- A well-named submission goes out to a collection whose namespace has a proper name. -/
theorem Operation.IsWellNamed.namespaceOr {kind : Kind} {record : kind.Record}
    (wellNamed : (Operation.create kind record).IsWellNamed) :
    IsPathText ((kind.metadata record).namespaceOr defaultNamespace) := by
  have fallback := isPathText_defaultNamespace
  unfold Metadata.namespaceOr
  -- No namespace and an empty one both stand for the default one.
  cases stated : (kind.metadata record).namespaceName with
  | none => exact fallback
  | some namespaceName =>
    show IsPathText (if namespaceName.isEmpty then defaultNamespace else namespaceName)
    split
    · exact fallback
    · exact wellNamed.2 namespaceName stated

/-- A submission that names no namespace is about the default one. -/
theorem Operation.key_create_of_unplaced {kind : Kind} {record : kind.Record} {name : String}
    (named : (kind.metadata record).name = some name)
    (unplaced : (kind.metadata record).namespaceName.getD "" = "") :
    (Operation.create kind record).key = ⟨defaultNamespace, name⟩ := by
  have fallback : (kind.metadata record).namespaceOr defaultNamespace = defaultNamespace := by
    unfold Metadata.namespaceOr
    cases stated : (kind.metadata record).namespaceName with
    | none => rfl
    | some given =>
      rw [stated, Option.getD_some] at unplaced
      exact if_pos (unplaced ▸ rfl)
  simp [Operation.key, RecordKey.ofMetadata, fallback, Metadata.effectiveName, named]

/-- A submission goes to the collection of its namespace and is read as a record. -/
theorem create_run (kind : Kind) (record : kind.Record)
    (wellNamed : (Operation.create kind record).IsWellNamed) :
    (Cluster.create server.send kind record).run shelf
      = ((readRecord kind (server.submit kind (.ofMetadata (kind.metadata record))
            (kind.write record) shelf).1).mapError .cluster,
          (server.submit kind (.ofMetadata (kind.metadata record))
            (kind.write record) shelf).2) := by
  obtain ⟨name, named, proper⟩ := wellNamed.1
  have plain := wellNamed.namespaceOr
  -- The path gives the namespace and the document gives the name: together they are the key.
  have own : RecordKey.ofMetadata (kind.metadata record)
      = ⟨(kind.metadata record).namespaceOr defaultNamespace, name⟩ := by
    simp [RecordKey.ofMetadata, Metadata.effectiveName, named]
  have sent : createRequest kind record = .ok ⟨.post, collectionPath kind
      ((kind.metadata record).namespaceOr defaultNamespace), some (kind.write record)⟩ :=
    request_collection .post kind plain _
  have answered := server.answer_post shelf kind record plain named
  rw [Cluster.create, StateT.run_bind, sent, server.exchange_run, answered, own]
  rfl

/-- A request for a record goes to its path and is read as a record. -/
theorem fetch_run (kind : Kind) {namespaceName name : String} (plain : IsPathText namespaceName)
    (named : IsName name) :
    (Cluster.fetch server.send kind namespaceName name).run shelf
      = ((readRecord kind (server.display kind ⟨namespaceName, name⟩ shelf)).mapError fun failure =>
          if saysAbsent failure then .notFound kind.name (namespaceName ++ "/" ++ name)
          else .cluster failure, shelf) := by
  have sent : fetchRequest kind namespaceName name
      = .ok ⟨.get, collectionPath kind namespaceName ++ "/" ++ name, none⟩ :=
    recordRequest_eq .get kind plain named none
  have answered := server.answer_get shelf kind plain named.2 none
  rw [Cluster.fetch, StateT.run_bind, sent, server.exchange_run, answered]
  rfl

/-- A deletion goes to the path of its record, and what says that there is none is taken for
success. -/
theorem delete_run (kind : Kind) {namespaceName name : String} (plain : IsPathText namespaceName)
    (named : IsName name) :
    (Cluster.delete server.send kind namespaceName name).run shelf
      = (match readDeletion kind (server.remove kind ⟨namespaceName, name⟩ shelf).1 with
          | .ok () => .ok ()
          | .error failure => if saysAbsent failure then .ok () else .error (.cluster failure),
        (server.remove kind ⟨namespaceName, name⟩ shelf).2) := by
  have sent : deleteRequest kind namespaceName name
      = .ok ⟨.delete, collectionPath kind namespaceName ++ "/" ++ name, some (.object [])⟩ :=
    recordRequest_eq .delete kind plain named _
  have answered := server.answer_delete shelf kind plain named.2 (some (.object []))
  rw [Cluster.delete, StateT.run_bind, sent, server.exchange_run, answered]
  cases readDeletion kind (server.remove kind ⟨namespaceName, name⟩ shelf).1 <;> rfl

/-- A submission is answered as a record map answers it. -/
theorem create_refines (represents : shelf.Represents records) (kind : Kind)
    (record : kind.Record) (wellNamed : (Operation.create kind record).IsWellNamed) :
    ∃ after, (Cluster.create server.send kind record).run shelf
        = ((Operation.create kind record).answeredBy server records, after)
      ∧ after.Represents ((Operation.create kind record).appliedTo records) := by
  rw [create_run server kind record wellNamed]
  have kept := represents kind (.ofMetadata (kind.metadata record))
  cases held : records.get? kind (.ofMetadata (kind.metadata record)) with
  | some other =>
    -- What is there is refused and stays.
    rw [held, Option.map_some] at kept
    refine ⟨shelf, ?_, ?_⟩
    · simp [ApiServer.submit, kept, readRecord_refused kind (server.isFailure_conflict kind _),
        Operation.answeredBy, held, Except.mapError]
    · simpa [Operation.appliedTo, RecordMap.create, held] using represents
  | none =>
    -- What is not there is put where the request says.
    rw [held, Option.map_none] at kept
    have read := readRecord_shown kind record (show Http.isFailure 201 = false by decide)
    refine ⟨shelf.put kind (.ofMetadata (kind.metadata record)) (some (kind.write record)), ?_, ?_⟩
    · simp [ApiServer.submit, kept, read, Operation.answeredBy, held, Except.mapError]
    · have put := represents.insert kind (.ofMetadata (kind.metadata record)) record
      simpa [Operation.appliedTo, RecordMap.create, held] using put

/-- A request for a record is answered as a record map answers it. -/
theorem fetch_refines (represents : shelf.Represents records) (kind : Kind)
    {namespaceName name : String} (plain : IsPathText namespaceName) (named : IsName name) :
    (Cluster.fetch server.send kind namespaceName name).run shelf
      = ((Operation.fetch kind namespaceName name).answeredBy server records, shelf) := by
  rw [fetch_run server kind plain named]
  have kept := represents kind ⟨namespaceName, name⟩
  cases held : records.get? kind ⟨namespaceName, name⟩ with
  | some record =>
    rw [held, Option.map_some] at kept
    have read := readRecord_shown kind record (show Http.isFailure 200 = false by decide)
    simp [ApiServer.display, kept, read, Operation.answeredBy, held, Except.mapError]
  | none =>
    -- The client tells the one refusal that it gets apart by its code.
    rw [held, Option.map_none] at kept
    simp [ApiServer.display, kept, readRecord_refused kind (server.isFailure_absence kind _),
      saysAbsent, server.absence_code, Operation.answeredBy, held, Except.mapError]

/-- A deletion succeeds, whether or not there is something to delete. -/
theorem delete_refines (represents : shelf.Represents records) (kind : Kind)
    {namespaceName name : String} (plain : IsPathText namespaceName) (named : IsName name) :
    ∃ after, (Cluster.delete server.send kind namespaceName name).run shelf = (.ok (), after)
      ∧ after.Represents (records.erase kind ⟨namespaceName, name⟩) := by
  rw [delete_run server kind plain named]
  have kept := represents kind ⟨namespaceName, name⟩
  cases held : records.get? kind ⟨namespaceName, name⟩ with
  | some record =>
    rw [held, Option.map_some] at kept
    have read : readDeletion kind (server.remove kind ⟨namespaceName, name⟩ shelf).1 = .ok () := by
      by_cases shows : server.showsDeleted kind = true
      · simp [ApiServer.remove, kept, shows, readDeletion_shown]
      · simp [ApiServer.remove, kept, shows, readDeletion_confirmed]
    refine ⟨shelf.put kind ⟨namespaceName, name⟩ none, ?_, represents.erase kind _⟩
    rw [read]
    simp [ApiServer.remove, kept]
  | none =>
    -- The client takes this refusal for success, and nothing was there to be deleted.
    rw [held, Option.map_none] at kept
    refine ⟨shelf, ?_, ?_⟩
    · simp [ApiServer.remove, kept, readDeletion_refused kind (server.isFailure_absence kind _),
        saysAbsent, server.absence_code]
    · have erased := represents.erase kind ⟨namespaceName, name⟩
      rwa [Shelf.put_none kept] at erased

/-- Every operation is answered as a record map answers it. -/
theorem carriedOut_refines (represents : shelf.Represents records) (operation : Operation)
    (wellNamed : operation.IsWellNamed) :
    ∃ after, (operation.carriedOut server.send).run shelf
        = (operation.answeredBy server records, after)
      ∧ after.Represents (operation.appliedTo records) := by
  cases operation with
  | create kind record => exact create_refines server represents kind record wellNamed
  | fetch kind namespaceName name =>
    exact ⟨shelf, fetch_refines server represents kind wellNamed.1 wellNamed.2, represents⟩
  | delete kind namespaceName name =>
    exact delete_refines server represents kind wellNamed.1 wellNamed.2

end Step

/-! ### What an operation changes -/

namespace Operation

/-- Whether an operation deletes what lies under a key. -/
def Deletes (kind : Kind) (key : RecordKey) : Operation → Prop
  | delete other namespaceName name => other = kind ∧ ⟨namespaceName, name⟩ = key
  | _ => False

variable {records : RecordMap} {kind : Kind} {key : RecordKey}

/-- What a record map holds under a key after an operation. -/
theorem get?_appliedTo {record : kind.Record} (last : Operation) :
    (last.appliedTo records).get? kind key = some record ↔
      (records.get? kind key = some record ∧ ¬ last.Deletes kind key)
        ∨ (last = .create kind record ∧ (create kind record).key = key
          ∧ records.get? kind key = none) := by
  cases last with
  | fetch other namespaceName name => simp [appliedTo, Deletes]
  | delete other namespaceName name =>
    by_cases same : other = kind
    · subst same
      rw [appliedTo, RecordMap.get?_erase]
      by_cases here : key = ⟨namespaceName, name⟩
      · simp [here, Deletes]
      · simp [here, Ne.symm here, Deletes]
    · rw [appliedTo, RecordMap.get?_erase_of_ne same]
      simp [same, Deletes]
  | create other submitted =>
    by_cases same : other = kind
    · subst same
      rw [appliedTo, RecordMap.get?_create]
      by_cases here : key = .ofMetadata (other.metadata submitted)
      · -- Nothing is created where something is already.
        subst here
        cases held : records.get? other (.ofMetadata (other.metadata submitted)) with
        | some kept => simp [Deletes]
        | none =>
          have own : submitted = record → (create other record).key
              = .ofMetadata (other.metadata submitted) := by
            rintro rfl
            rfl
          simpa [Deletes] using own
      · rw [if_neg here]
        have elsewhere : submitted = record → (create other record).key = key →
            records.get? other key = none → records.get? other key = some record := by
          rintro rfl own
          exact absurd own.symm here
        simpa [Deletes] using elsewhere
    · rw [appliedTo, RecordMap.get?_create_of_ne same]
      simp [same, Deletes]

/-- What one operation leaves under a key depends on what was there alone. -/
theorem get?_appliedTo_congr {first second : RecordMap}
    (same : first.get? kind key = second.get? kind key) (last : Operation) :
    (last.appliedTo first).get? kind key = (last.appliedTo second).get? kind key :=
  Option.ext fun record => by rw [get?_appliedTo, get?_appliedTo, same]

/-- An operation on another record leaves what is under a key. -/
theorem get?_appliedTo_of_apart {other : Operation} (apart : other.kind ≠ kind ∨ other.key ≠ key) :
    (other.appliedTo records).get? kind key = records.get? kind key := by
  -- It neither deletes what is under the key nor puts anything there.
  have spared : ¬ other.Deletes kind key := by
    cases other with
    | delete _ _ _ => exact fun deletes => apart.elim (· deletes.1) (· deletes.2)
    | _ => exact id
  refine Option.ext fun record => ?_
  rw [get?_appliedTo]
  constructor
  · rintro (⟨found, -⟩ | ⟨rfl, own, -⟩)
    · exact found
    · exact absurd own (apart.resolve_left fun unlike => unlike rfl)
  · exact fun found => .inl ⟨found, spared⟩

/-- The reply of a record map depends on what is under the operation's key alone. -/
theorem answeredBy_congr (server : ApiServer) {first second : RecordMap} {asked : Operation}
    (same : first.get? asked.kind asked.key = second.get? asked.kind asked.key) :
    asked.answeredBy server first = asked.answeredBy server second := by
  -- A deletion is answered without a look at the map.
  cases asked with
  | create kind record =>
    simp only [Operation.kind, Operation.key] at same
    simp only [answeredBy, same]
  | fetch kind namespaceName name =>
    simp only [Operation.kind, Operation.key] at same
    simp only [answeredBy, same]
  | delete kind namespaceName name => rfl

end Operation

end DatabaseLifecycle.Cluster

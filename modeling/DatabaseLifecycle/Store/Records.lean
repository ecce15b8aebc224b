import DatabaseLifecycle.Resource.Kind

/-!
Record maps: the records of a cluster under their kind, namespace and name. The records of a kind
are kept in increasing order of their keys.
-/

namespace DatabaseLifecycle

/-- Where a record lies among those of its kind. -/
structure RecordKey where
  /-- The namespace. -/
  namespaceName : String
  /-- The name. -/
  name : String
  deriving DecidableEq, Repr, Inhabited

namespace RecordKey

/-- Whether a key comes before another. -/
def isBefore (first second : RecordKey) : Bool :=
  first.namespaceName < second.namespaceName
    || first.namespaceName == second.namespaceName && first.name < second.name

/-- The key of a namespace and a name; no namespace is the default one. -/
def of (namespaceName name : String) : RecordKey :=
  ⟨if namespaceName.isEmpty then defaultNamespace else namespaceName, name⟩

/-- The key of what a record says about itself. -/
def ofMetadata (metadata : Metadata) : RecordKey :=
  ⟨metadata.namespaceOr defaultNamespace, metadata.effectiveName⟩

end RecordKey

/-- The records of a cluster. -/
structure RecordMap where
  /-- The records of each kind. -/
  entries : (kind : Kind) → List (RecordKey × kind.Record)

namespace RecordMap

/-- No records. -/
def empty : RecordMap := ⟨fun _ => []⟩

instance : Inhabited RecordMap := ⟨empty⟩

/-- The record under a key. -/
def get? (map : RecordMap) (kind : Kind) (key : RecordKey) : Option kind.Record :=
  (map.entries kind).lookup key

/-- Entries with one more, before the first that does not come before it, in place of an entry with
the same key. -/
def insertEntry {α : Type} (key : RecordKey) (record : α) :
    List (RecordKey × α) → List (RecordKey × α)
  | [] => [(key, record)]
  | (other, kept) :: rest =>
    if other = key then (key, record) :: rest
    else if other.isBefore key then (other, kept) :: insertEntry key record rest
    else (key, record) :: (other, kept) :: rest

/-- The map with other records of one kind. -/
def withEntries (map : RecordMap) (kind : Kind) (entries : List (RecordKey × kind.Record)) :
    RecordMap :=
  ⟨fun other => if same : kind = other then same ▸ entries else map.entries other⟩

/-- The map with a record under a key. -/
def insert (map : RecordMap) (kind : Kind) (key : RecordKey) (record : kind.Record) : RecordMap :=
  map.withEntries kind (insertEntry key record (map.entries kind))

/-- The map without the record under a key. -/
def erase (map : RecordMap) (kind : Kind) (key : RecordKey) : RecordMap :=
  map.withEntries kind ((map.entries kind).filter (·.1 != key))

/-- The keys of a kind. -/
def keys (map : RecordMap) (kind : Kind) : List RecordKey := (map.entries kind).map (·.1)

/-- The record is submitted: it is kept unless there is one under its key already. -/
def create (map : RecordMap) (kind : Kind) (record : kind.Record) :
    Option kind.Record × RecordMap :=
  let key := RecordKey.ofMetadata (kind.metadata record)
  match map.get? kind key with
  | some _ => (none, map)
  | none => (some record, map.insert kind key record)

end RecordMap

end DatabaseLifecycle

import DatabaseLifecycle.Document.Record
import DatabaseLifecycle.Error

/-!
Snapshots of a time machine, and the choice of the one that a clone restores: daily snapshots come
before continuous ones, those before manual ones, and those before all others.
-/

namespace DatabaseLifecycle

/-- A snapshot. -/
structure Snapshot where
  /-- The control plane's name for it. -/
  id : String
  /-- Its own name. -/
  name : String := ""
  deriving DecidableEq, Repr, Inhabited

/-- Snapshots of one type, in the order they are listed. -/
structure SnapshotGroup where
  /-- The snapshots. -/
  snapshots : List Snapshot := []
  deriving DecidableEq, Repr, Inhabited

/-- The snapshots of a time machine, in groups for each compute cluster. -/
structure SnapshotCatalog where
  /-- The groups under the clusters' ids. -/
  clusters : Table (List SnapshotGroup) := .empty
  deriving Inhabited

/-- The types of snapshots that have a place of their own among the groups. -/
inductive SnapshotType where
  /-- Taken at a time of day. -/
  | daily
  /-- Taken with the copies of the log. -/
  | continuous
  /-- Taken by hand. -/
  | manual
  deriving DecidableEq, Repr, Inhabited

namespace SnapshotType

/-- All types, the preferred one first. -/
def precedence : List SnapshotType := [daily, continuous, manual]

/-- The place of the type's group. -/
def groupIndex : SnapshotType → Nat
  | daily => 0
  | continuous => 1
  | manual => 2

/-- The name of the type. -/
def name : SnapshotType → String
  | daily => "daily"
  | continuous => "continuous"
  | manual => "manual"

end SnapshotType

namespace Snapshot

/-- A snapshot as it is read. -/
def read? {ν : Type} [Source ν] (value : ν) : Option Snapshot := do
  let record ← Record.read? ["id", "name"] value
  return {
    id := ← record.required? "id" Source.text?
    name := ← record.orDefault? "name" "" Source.text? }

/-- A snapshot as it is written. -/
def write (snapshot : Snapshot) : Document :=
  .object [("id", .text snapshot.id), ("name", .text snapshot.name)]

end Snapshot

namespace SnapshotGroup

/-- The group of snapshots that have nothing but an id. -/
def ofIds (ids : List String) : SnapshotGroup := ⟨ids.map fun id => { id }⟩

/-- A group as it is read. -/
def read? {ν : Type} [Source ν] (value : ν) : Option SnapshotGroup := do
  let record ← Record.read? ["snapshots"] value
  return { snapshots := ← record.orDefault? "snapshots" [] (Source.list? Snapshot.read?) }

/-- A group as it is written. -/
def write (group : SnapshotGroup) : Document :=
  .object [("snapshots", .list (group.snapshots.map Snapshot.write))]

/-- The first id in the group that is not empty. -/
def firstId? (group : SnapshotGroup) : Option String :=
  (group.snapshots.find? fun snapshot => !snapshot.id.isEmpty).map Snapshot.id

end SnapshotGroup

namespace SnapshotCatalog

/-- A catalog as it is read. -/
def read? {ν : Type} [Source ν] (value : ν) : Option SnapshotCatalog := do
  let record ← Record.read? ["snapshotsPerCluster"] value
  return {
    clusters := ← record.orDefault? "snapshotsPerCluster" .empty fun clusters =>
      (Source.entries? (Source.list? SnapshotGroup.read?) clusters).map Table.ofList }

/-- A catalog as it is written. -/
def write (catalog : SnapshotCatalog) : Document :=
  .object [("snapshotsPerCluster", .object (catalog.clusters.entries.map fun entry =>
    (entry.1, .list (entry.2.map SnapshotGroup.write))))]

/-- The order in which that many groups are searched: first those of the known types. -/
def searchOrder (count : Nat) : List Nat :=
  let known := SnapshotType.precedence.map SnapshotType.groupIndex
  known ++ (List.range count).filter fun index => !known.contains index

/-- The id of the snapshot that a clone on a cluster restores. -/
def select (catalog : SnapshotCatalog) (cluster : String) : Except Error String :=
  match (catalog.clusters.find? cluster).filter (!·.isEmpty) with
  | none => .error (.notFound "snapshots for cluster" cluster)
  | some groups =>
    match (searchOrder groups.length).findSome? fun index =>
        groups[index]? >>= SnapshotGroup.firstId? with
    | some id => .ok id
    | none => .error (.notFound "snapshot for cluster" cluster)

end SnapshotCatalog

end DatabaseLifecycle

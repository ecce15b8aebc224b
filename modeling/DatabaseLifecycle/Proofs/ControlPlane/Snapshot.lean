import DatabaseLifecycle.ControlPlane.Snapshot

/-!
The snapshot that is selected for a cluster is the first one with an id among all that the catalog
lists under that cluster, group after group. Although the groups are looked up by a table of places,
none is left out and none is searched out of turn, however many there are.
-/

namespace DatabaseLifecycle

namespace SnapshotGroup

/-- The ids of a group, in the order of its snapshots. -/
def ids (group : SnapshotGroup) : List String := group.snapshots.map Snapshot.id

/-- The first id of a group is the first of its ids that is not empty. -/
theorem firstId?_eq (group : SnapshotGroup) : group.firstId? = group.ids.find? (· ≠ "") := by
  have named (snapshot : Snapshot) : (!snapshot.id.isEmpty) = decide (snapshot.id ≠ "") := by
    by_cases empty : snapshot.id = "" <;> simp [empty, String.isEmpty_iff]
  simp only [firstId?, ids, List.find?_map, named]
  rfl

/-- An id is the first of a group exactly when one of its snapshots has it and those before have
none. -/
theorem firstId?_eq_some_iff {group : SnapshotGroup} {id : String} :
    group.firstId? = some id ↔ id ≠ "" ∧ ∃ earlier snapshot later,
      group.snapshots = earlier ++ snapshot :: later ∧ snapshot.id = id
        ∧ ∀ passed ∈ earlier, passed.id = "" := by
  rw [firstId?, Option.map_eq_some_iff]
  simp only [List.find?_eq_some_iff_append]
  constructor
  · rintro ⟨snapshot, ⟨named, earlier, later, split, blank⟩, rfl⟩
    refine ⟨by simpa using named, earlier, snapshot, later, split, rfl, ?_⟩
    simpa using blank
  · rintro ⟨named, earlier, snapshot, later, split, rfl, blank⟩
    exact ⟨snapshot, ⟨by simpa using named, earlier, later, split, by simpa using blank⟩, rfl⟩

/-- A group has no first id exactly when none of its snapshots has an id. -/
theorem firstId?_eq_none_iff {group : SnapshotGroup} :
    group.firstId? = none ↔ ∀ snapshot ∈ group.snapshots, snapshot.id = "" := by
  simp [firstId?]

end SnapshotGroup

/-- To look up the places of a list one after another is to go through its items, as long as no
place is left out; places beyond the end do no harm. -/
theorem findSome?_places {α β : Type} (search : α → Option β) {items : List α} {count : Nat}
    (all : items.length ≤ count) :
    (List.range count).findSome? (fun index => items[index]? >>= search)
      = items.findSome? search := by
  -- The first place holds the first item, and the other places are those of the rest.
  induction items generalizing count with
  | nil => simp
  | cons item rest found =>
    cases count with
    | zero => simp at all
    | succ count =>
      have covered : rest.length ≤ count := by simpa using all
      have later := found covered
      rw [List.range_succ_eq_map, List.findSome?_cons, List.findSome?_map, List.findSome?_cons,
        ← later]
      rfl

namespace SnapshotCatalog

variable {catalog : SnapshotCatalog} {cluster id : String}

/-- The groups that are listed under a cluster; there are none where the cluster is not listed. -/
def groups (catalog : SnapshotCatalog) (cluster : String) : List SnapshotGroup :=
  (catalog.clusters.find? cluster).getD []

/-- The ids that are listed under a cluster, those of one group after those of another. -/
def ids (catalog : SnapshotCatalog) (cluster : String) : List String :=
  (catalog.groups cluster).flatMap SnapshotGroup.ids

/-- A catalog has a snapshot with this id under a cluster. -/
def Lists (catalog : SnapshotCatalog) (cluster id : String) : Prop :=
  ∃ groups, catalog.clusters.find? cluster = some groups
    ∧ ∃ group ∈ groups, ∃ snapshot ∈ group.snapshots, snapshot.id = id

/-- An id is the first under a cluster: the snapshots before it in its own group have none, and
neither have those of the groups before. -/
def ListsFirst (catalog : SnapshotCatalog) (cluster id : String) : Prop :=
  id ≠ "" ∧ ∃ before group after earlier snapshot later,
    catalog.groups cluster = before ++ group :: after
      ∧ group.snapshots = earlier ++ snapshot :: later ∧ snapshot.id = id
      ∧ (∀ passed ∈ earlier, passed.id = "")
      ∧ ∀ passed ∈ before, ∀ snapshot ∈ passed.snapshots, snapshot.id = ""

/-- The places of the known types are the first ones, so the places are searched in their order, and
always at least those of the known types. -/
theorem searchOrder_eq_range (count : Nat) : searchOrder count = List.range (max 3 count) := by
  have known : SnapshotType.precedence.map SnapshotType.groupIndex = List.range 3 := rfl
  simp only [searchOrder, known]
  rcases Nat.le_total count 3 with few | many
  · -- All groups are at places of known types.
    have others : (List.range count).filter (fun index => !(List.range 3).contains index) = [] := by
      rw [List.filter_eq_nil_iff]
      intro index listed
      have below : index < 3 := Nat.lt_of_lt_of_le (List.mem_range.mp listed) few
      simp [below]
    rw [others, List.append_nil, Nat.max_eq_left few]
  · -- The other places begin where those of the known types end.
    obtain ⟨more, rfl⟩ := Nat.exists_eq_add_of_le many
    have first : (List.range 3).filter (fun index => !(List.range 3).contains index) = [] := rfl
    have others : ((List.range more).map (3 + ·)).filter
        (fun index => !(List.range 3).contains index) = (List.range more).map (3 + ·) := by
      rw [List.filter_eq_self]
      simp
    rw [Nat.max_eq_right many, List.range_add, List.filter_append, first, others, List.nil_append]

/-- The search by places finds the first id of all groups. -/
theorem findSome?_searchOrder (groups : List SnapshotGroup) :
    (searchOrder groups.length).findSome? (fun index => groups[index]? >>= SnapshotGroup.firstId?)
      = groups.findSome? SnapshotGroup.firstId? := by
  rw [searchOrder_eq_range, findSome?_places _ (Nat.le_max_right _ _)]

/-- A selection is the first id of the groups under the cluster, or the failure to find one. -/
theorem select_eq (catalog : SnapshotCatalog) (cluster : String) :
    catalog.select cluster =
      match (catalog.groups cluster).findSome? SnapshotGroup.firstId? with
      | some id => .ok id
      | none => .error (.notFound (if catalog.groups cluster = [] then "snapshots for cluster"
          else "snapshot for cluster") cluster) := by
  unfold select groups
  cases catalog.clusters.find? cluster with
  | none => rfl
  | some groups =>
    cases groups with
    | nil => rfl
    | cons group rest =>
      -- Only here there is something to search.
      have listed : (some (group :: rest)).getD [] ≠ [] := List.cons_ne_nil group rest
      rw [if_neg listed]
      show (match (searchOrder (group :: rest).length).findSome?
          fun index => (group :: rest)[index]? >>= SnapshotGroup.firstId? with
        | some id => Except.ok id
        | none => .error (Error.notFound "snapshot for cluster" cluster)) = _
      rw [findSome?_searchOrder, Option.getD_some]

/-- The first id of all groups is the first of all ids that is not empty. -/
theorem findSome?_firstId? (catalog : SnapshotCatalog) (cluster : String) :
    (catalog.groups cluster).findSome? SnapshotGroup.firstId?
      = (catalog.ids cluster).find? (· ≠ "") := by
  rw [ids, List.find?_flatMap]
  congr 1
  funext group
  exact group.firstId?_eq

/-- An id is selected exactly when it is the first one listed. -/
theorem select_eq_ok_iff : catalog.select cluster = .ok id ↔ catalog.ListsFirst cluster id := by
  have found : catalog.select cluster = .ok id ↔
      (catalog.groups cluster).findSome? SnapshotGroup.firstId? = some id := by
    rw [select_eq]
    cases (catalog.groups cluster).findSome? SnapshotGroup.firstId? <;> simp
  rw [found, List.findSome?_eq_some_iff, ListsFirst]
  simp only [SnapshotGroup.firstId?_eq_some_iff, SnapshotGroup.firstId?_eq_none_iff]
  constructor
  · rintro ⟨before, group, after, split, ⟨named, earlier, snapshot, later, own, same, blank⟩, none⟩
    exact ⟨named, before, group, after, earlier, snapshot, later, split, own, same, blank, none⟩
  · rintro ⟨named, before, group, after, earlier, snapshot, later, split, own, same, blank, none⟩
    exact ⟨before, group, after, split, ⟨named, earlier, snapshot, later, own, same, blank⟩, none⟩

/-- A selection fails exactly when no group is listed under the cluster or none of them has an
id. -/
theorem select_eq_error_iff {error : Error} : catalog.select cluster = .error error ↔
    (catalog.groups cluster = [] ∧ error = .notFound "snapshots for cluster" cluster)
      ∨ (catalog.groups cluster ≠ []
        ∧ (∀ group ∈ catalog.groups cluster, ∀ snapshot ∈ group.snapshots, snapshot.id = "")
        ∧ error = .notFound "snapshot for cluster" cluster) := by
  have none : (catalog.groups cluster).findSome? SnapshotGroup.firstId? = none ↔
      ∀ group ∈ catalog.groups cluster, ∀ snapshot ∈ group.snapshots, snapshot.id = "" := by
    simp only [List.findSome?_eq_none_iff, SnapshotGroup.firstId?_eq_none_iff]
  rw [select_eq, ← none]
  by_cases empty : catalog.groups cluster = []
  · -- Without groups there is nothing to search.
    simp [empty, eq_comm]
  · cases (catalog.groups cluster).findSome? SnapshotGroup.firstId? <;> simp [empty, eq_comm]

/-- A selected id is not empty, and it is listed under the cluster that it was selected for. -/
theorem select_eq_ok (selected : catalog.select cluster = .ok id) :
    id ≠ "" ∧ catalog.Lists cluster id := by
  obtain ⟨named, before, group, after, earlier, snapshot, later, split, own, same, -⟩ :=
    select_eq_ok_iff.mp selected
  refine ⟨named, catalog.groups cluster, ?_, group, by simp [split], snapshot, by simp [own], same⟩
  -- A cluster that is not listed has no groups.
  unfold groups at split ⊢
  cases listed : catalog.clusters.find? cluster with
  | none => simp [listed] at split
  | some groups => rfl

/-- The ids under a cluster are those of the daily, of the continuous and of the manual snapshots,
as far as there are such groups, and then those of all further groups. -/
theorem ids_eq (catalog : SnapshotCatalog) (cluster : String) : catalog.ids cluster
    = (SnapshotType.precedence.flatMap fun type =>
        (((catalog.groups cluster)[type.groupIndex]?).map SnapshotGroup.ids).getD [])
      ++ ((catalog.groups cluster).drop SnapshotType.precedence.length).flatMap
        SnapshotGroup.ids := by
  rw [ids]
  -- There may be fewer groups than known types.
  rcases catalog.groups cluster with _ | ⟨first, _ | ⟨second, _ | ⟨third, others⟩⟩⟩ <;>
    simp [SnapshotType.precedence, SnapshotType.groupIndex]

/-- Selecting a snapshot is searching all ids that are listed under the cluster, in the order of the
groups and however many there are. What is found is the first id that is not empty, and it is listed
under this cluster; nothing is found exactly where there are no groups or where all ids are empty.
What is listed under other clusters makes no difference. -/
theorem select_finds_first_listed (catalog : SnapshotCatalog) (cluster : String) :
    (∀ id, catalog.select cluster = .ok id ↔ (catalog.ids cluster).find? (· ≠ "") = some id)
      ∧ catalog.ids cluster = (SnapshotType.precedence.flatMap fun type =>
          (((catalog.groups cluster)[type.groupIndex]?).map SnapshotGroup.ids).getD [])
        ++ ((catalog.groups cluster).drop SnapshotType.precedence.length).flatMap SnapshotGroup.ids
      ∧ (∀ id, catalog.select cluster = .ok id ↔ catalog.ListsFirst cluster id)
      ∧ (∀ id, catalog.select cluster = .ok id → id ≠ "" ∧ catalog.Lists cluster id)
      ∧ (∀ error, catalog.select cluster = .error error ↔
          ((catalog.clusters.find? cluster = none ∨ catalog.clusters.find? cluster = some [])
              ∧ error = .notFound "snapshots for cluster" cluster)
            ∨ (catalog.groups cluster ≠ []
              ∧ (∀ group ∈ catalog.groups cluster, ∀ snapshot ∈ group.snapshots, snapshot.id = "")
              ∧ error = .notFound "snapshot for cluster" cluster))
      ∧ ∀ other : SnapshotCatalog, other.clusters.find? cluster = catalog.clusters.find? cluster →
          other.select cluster = catalog.select cluster := by
  refine ⟨fun id => ?flat, catalog.ids_eq cluster, fun id => select_eq_ok_iff,
    fun id => select_eq_ok, fun error => ?fails, fun other same => ?apart⟩
  case flat =>
    rw [select_eq, findSome?_firstId?]
    cases (catalog.ids cluster).find? (· ≠ "") <;> simp
  case fails =>
    have empty : catalog.groups cluster = [] ↔
        catalog.clusters.find? cluster = none ∨ catalog.clusters.find? cluster = some [] := by
      unfold groups
      cases catalog.clusters.find? cluster <;> simp
    rw [select_eq_error_iff, empty]
  case apart =>
    have alike : other.groups cluster = catalog.groups cluster := by rw [groups, groups, same]
    rw [select_eq, select_eq, alike]

end SnapshotCatalog

end DatabaseLifecycle

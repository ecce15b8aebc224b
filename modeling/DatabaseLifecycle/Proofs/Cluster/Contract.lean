import DatabaseLifecycle.Proofs.Cluster.Operation
import Mathlib.Data.List.Induction

/-!
The client and a server that keeps documents are together a keeper of records, over every sequence
of operations: a record that was created and not deleted since is found, and nothing else is.
-/

namespace DatabaseLifecycle.Cluster

/-- What a record map holds after some operations, of which the first finds nothing. -/
def recordsAfter (operations : List Operation) : RecordMap :=
  operations.foldl Operation.appliedTo .empty

namespace ApiServer

variable {server : ApiServer} {earlier : List Operation}

/-- What the server keeps after some operations, of which the first finds nothing. -/
def after (server : ApiServer) (operations : List Operation) : Shelf :=
  operations.foldl (fun shelf operation => ((operation.carriedOut server.send).run shelf).2) .empty

/-- The reply to an operation that comes after others. -/
def reply (server : ApiServer) (earlier : List Operation) (asked : Operation) : asked.Reply :=
  ((asked.carriedOut server.send).run (server.after earlier)).1

/-- What a record map holds after one more operation. -/
theorem recordsAfter_append (last : Operation) :
    recordsAfter (earlier ++ [last]) = last.appliedTo (recordsAfter earlier) := by
  simp [recordsAfter]

/-- After the same operations the server keeps what a record map holds. -/
theorem after_represents (server : ApiServer) (operations : List Operation)
    (wellNamed : ∀ operation ∈ operations, operation.IsWellNamed) :
    (server.after operations).Represents (recordsAfter operations) := by
  -- The induction is over the operations still to come, from whatever the server keeps by then.
  have run : ∀ (rest : List Operation) (shelf : Shelf) (records : RecordMap),
      (∀ operation ∈ rest, operation.IsWellNamed) → shelf.Represents records →
        (rest.foldl (fun shelf operation => ((operation.carriedOut server.send).run shelf).2)
          shelf).Represents (rest.foldl Operation.appliedTo records) := by
    intro rest
    induction rest with
    | nil => exact fun _ _ _ represents => represents
    | cons first others step =>
      intro shelf records wellNamed represents
      obtain ⟨next, done, kept⟩ :=
        carriedOut_refines server represents first (wellNamed first List.mem_cons_self)
      rw [List.foldl_cons, List.foldl_cons, done]
      exact step next _ (fun other listed => wellNamed other (List.mem_cons_of_mem _ listed)) kept
  exact run operations .empty .empty wellNamed fun _ _ => rfl

/-- A reply is the one of a record map after the same operations. -/
theorem reply_eq (wellNamed : ∀ operation ∈ earlier, operation.IsWellNamed) {asked : Operation}
    (proper : asked.IsWellNamed) :
    server.reply earlier asked = asked.answeredBy server (recordsAfter earlier) := by
  obtain ⟨next, done, -⟩ :=
    carriedOut_refines server (after_represents server earlier wellNamed) asked proper
  rw [reply, done]

/-- A record was created under a key by one of the operations, and none after it deletes it. -/
def Stands (server : ApiServer) (operations : List Operation) (kind : Kind) (key : RecordKey)
    (record : kind.Record) : Prop :=
  ∃ before since, operations = before ++ .create kind record :: since
    ∧ (Operation.create kind record).key = key
    ∧ server.reply before (.create kind record) = .ok record
    ∧ ∀ later ∈ since, ¬ later.Deletes kind key

/-- One more operation leaves what stands unless it deletes it, and may create something. -/
theorem stands_append {kind : Kind} {key : RecordKey} {record : kind.Record} (last : Operation) :
    server.Stands (earlier ++ [last]) kind key record ↔
      (server.Stands earlier kind key record ∧ ¬ last.Deletes kind key)
        ∨ (last = .create kind record ∧ (Operation.create kind record).key = key
          ∧ server.reply earlier (.create kind record) = .ok record) := by
  constructor
  · rintro ⟨before, since, split, own, created, kept⟩
    rcases List.eq_nil_or_concat since with rfl | ⟨others, final, rfl⟩
    · -- The creation is the last operation.
      obtain ⟨rfl, same⟩ := List.append_inj' split rfl
      exact .inr ⟨(List.cons.inj same).1, own, created⟩
    · rw [List.concat_eq_append, ← List.cons_append, ← List.append_assoc] at split
      obtain ⟨rfl, same⟩ := List.append_inj' split rfl
      obtain rfl := (List.cons.inj same).1
      refine .inl ⟨⟨before, others, rfl, own, created, fun later listed => kept later ?_⟩,
        kept last ?_⟩
      · simp [listed]
      · simp
  · rintro (⟨⟨before, since, rfl, own, created, kept⟩, spared⟩ | ⟨rfl, own, created⟩)
    · refine ⟨before, since ++ [last], by simp, own, created, fun later listed => ?_⟩
      rcases List.mem_append.mp listed with sooner | final
      · exact kept later sooner
      · exact List.mem_singleton.mp final ▸ spared
    · exact ⟨earlier, [], rfl, own, created, fun _ listed => nomatch listed⟩

/-- A submission succeeds exactly where nothing is yet. -/
theorem reply_create_eq_ok (wellNamed : ∀ operation ∈ earlier, operation.IsWellNamed) {kind : Kind}
    {record : kind.Record} (proper : (Operation.create kind record).IsWellNamed) :
    server.reply earlier (.create kind record) = .ok record
      ↔ (recordsAfter earlier).get? kind (Operation.create kind record).key = none := by
  rw [reply_eq wellNamed proper, Operation.answeredBy, Operation.key]
  cases (recordsAfter earlier).get? kind (.ofMetadata (kind.metadata record)) <;> simp

/-- What stands under a key is what a record map holds there. -/
theorem stands_iff (operations : List Operation)
    (wellNamed : ∀ operation ∈ operations, operation.IsWellNamed) {kind : Kind} {key : RecordKey}
    {record : kind.Record} :
    server.Stands operations kind key record
      ↔ (recordsAfter operations).get? kind key = some record := by
  -- From the last operation backwards: it leaves what was there, deletes it or puts it there.
  induction operations using List.reverseRecOn with
  | nil =>
    constructor
    · rintro ⟨before, since, split, -⟩
      simp at split
    · rintro ⟨⟩
  | append_singleton operations last step =>
    have former : ∀ operation ∈ operations, operation.IsWellNamed :=
      fun operation listed => wellNamed operation (List.mem_append_left _ listed)
    have proper : last.IsWellNamed := wellNamed last (by simp)
    rw [stands_append, recordsAfter_append, Operation.get?_appliedTo, step former]
    refine or_congr Iff.rfl (and_congr_right fun same => and_congr_right fun own => ?_)
    rw [reply_create_eq_ok former (same ▸ proper), own]

/-- An earlier operation on another record does not change what is under a key later. -/
theorem get?_recordsAfter_of_apart {kind : Kind} {key : RecordKey} {other : Operation}
    (apart : other.kind ≠ kind ∨ other.key ≠ key) (between : List Operation) :
    (recordsAfter (earlier ++ other :: between)).get? kind key
      = (recordsAfter (earlier ++ between)).get? kind key := by
  -- Two maps that agree under the key go on agreeing, whatever operations follow.
  have run : ∀ (rest : List Operation) (first second : RecordMap),
      first.get? kind key = second.get? kind key →
        (rest.foldl Operation.appliedTo first).get? kind key
          = (rest.foldl Operation.appliedTo second).get? kind key := by
    intro rest
    induction rest with
    | nil => exact fun _ _ same => same
    | cons next others step =>
      exact fun first second same => step _ _ (Operation.get?_appliedTo_congr same next)
  rw [recordsAfter, recordsAfter, List.foldl_append, List.foldl_append, List.foldl_cons]
  exact run between _ _ (Operation.get?_appliedTo_of_apart apart)

/-- Where nothing stands, a record map holds nothing. -/
theorem get?_of_absent (wellNamed : ∀ operation ∈ earlier, operation.IsWellNamed) {kind : Kind}
    {key : RecordKey} (absent : ∀ record, ¬ server.Stands earlier kind key record) :
    (recordsAfter earlier).get? kind key = none :=
  Option.eq_none_iff_forall_ne_some.mpr fun record held =>
    absent record ((stands_iff earlier wellNamed).mpr held)

/-- Operations stay well named when one more is. -/
theorem wellNamed_append (wellNamed : ∀ operation ∈ earlier, operation.IsWellNamed)
    {last : Operation} (proper : last.IsWellNamed) :
    ∀ operation ∈ earlier ++ [last], operation.IsWellNamed := by
  intro operation listed
  rcases List.mem_append.mp listed with sooner | final
  · exact wellNamed operation sooner
  · exact List.mem_singleton.mp final ▸ proper

/-- What is asked of a keeper of records when some operations have gone before. -/
structure KeepsContract (server : ApiServer) (earlier : List Operation) : Prop where
  /-- A record that was created and not deleted since is fetched as it was created. -/
  fetch_standing {kind : Kind} {namespaceName name : String} {record : kind.Record}
    (proper : (Operation.fetch kind namespaceName name).IsWellNamed)
    (stands : server.Stands earlier kind ⟨namespaceName, name⟩ record) :
    server.reply earlier (.fetch kind namespaceName name) = .ok record
  /-- Where no record stands, none is found, and the failure names the kind and the full name. -/
  fetch_absent {kind : Kind} {namespaceName name : String}
    (proper : (Operation.fetch kind namespaceName name).IsWellNamed)
    (absent : ∀ record, ¬ server.Stands earlier kind ⟨namespaceName, name⟩ record) :
    server.reply earlier (.fetch kind namespaceName name)
      = .error (.notFound kind.name (namespaceName ++ "/" ++ name))
  /-- A fetch never fails as a failure of the cluster. -/
  fetch_not_cluster {kind : Kind} {namespaceName name : String}
    (proper : (Operation.fetch kind namespaceName name).IsWellNamed) (failure : ClusterFailure) :
    server.reply earlier (.fetch kind namespaceName name) ≠ .error (.cluster failure)
  /-- A deletion succeeds, whether or not a record stands there, and nothing is kept after it. -/
  delete_ok {kind : Kind} {namespaceName name : String}
    (proper : (Operation.delete kind namespaceName name).IsWellNamed) :
    server.reply earlier (.delete kind namespaceName name) = .ok ()
      ∧ server.after (earlier ++ [.delete kind namespaceName name]) kind ⟨namespaceName, name⟩
        = none
  /-- A record is not created where one stands, and what is kept stays as it is. -/
  create_taken {kind : Kind} {record standing : kind.Record}
    (proper : (Operation.create kind record).IsWellNamed)
    (stands : server.Stands earlier kind (Operation.create kind record).key standing) :
    (∃ refusal : Refusal, refusal.code = 409
        ∧ server.reply earlier (.create kind record) = .error (.cluster (.refused refusal)))
      ∧ server.after (earlier ++ [.create kind record]) = server.after earlier
  /-- A record is created where none stands, and stands there. -/
  create_free {kind : Kind} {record : kind.Record}
    (proper : (Operation.create kind record).IsWellNamed)
    (free : ∀ standing, ¬ server.Stands earlier kind (Operation.create kind record).key standing) :
    server.reply earlier (.create kind record) = .ok record
      ∧ server.Stands (earlier ++ [.create kind record]) kind (Operation.create kind record).key
        record
  /-- A record that names no namespace is created in the default one. -/
  create_unplaced {kind : Kind} {record : kind.Record} {name : String}
    (proper : (Operation.create kind record).IsWellNamed)
    (named : (kind.metadata record).name = some name)
    (unplaced : (kind.metadata record).namespaceName.getD "" = "")
    (free : ∀ standing, ¬ server.Stands earlier kind ⟨"default", name⟩ standing) :
    server.reply (earlier ++ [.create kind record]) (.fetch kind "default" name) = .ok record
  /-- An operation on one record changes no later reply to an operation on another one. -/
  apart {other asked : Operation} {between : List Operation} (proper : other.IsWellNamed)
    (betweenProper : ∀ operation ∈ between, operation.IsWellNamed) (askedProper : asked.IsWellNamed)
    (unlike : other.kind ≠ asked.kind ∨ other.key ≠ asked.key) :
    server.reply (earlier ++ other :: between) asked = server.reply (earlier ++ between) asked

/-- The client and a server that keeps documents are together a keeper of records, whatever
operations have gone before. -/
theorem client_keeps_contract (server : ApiServer) (earlier : List Operation)
    (wellNamed : ∀ operation ∈ earlier, operation.IsWellNamed) : server.KeepsContract earlier where
  fetch_standing proper stands := by
    have held := (stands_iff earlier wellNamed).mp stands
    rw [reply_eq wellNamed proper, Operation.answeredBy, held]
  fetch_absent proper absent := by
    have free := get?_of_absent wellNamed absent
    rw [reply_eq wellNamed proper, Operation.answeredBy, free]
  fetch_not_cluster {kind namespaceName name} proper failure := by
    rw [reply_eq wellNamed proper, Operation.answeredBy]
    cases (recordsAfter earlier).get? kind ⟨namespaceName, name⟩ <;> simp
  delete_ok {kind namespaceName name} proper := by
    refine ⟨by rw [reply_eq wellNamed proper, Operation.answeredBy], ?_⟩
    rw [after_represents server _ (wellNamed_append wellNamed proper), recordsAfter_append,
      Operation.appliedTo, RecordMap.get?_erase, if_pos rfl, Option.map_none]
  create_taken {kind record standing} proper stands := by
    have held := (stands_iff earlier wellNamed).mp stands
    constructor
    · refine ⟨server.conflict kind (Operation.create kind record).key, server.conflict_code _ _, ?_⟩
      rw [Operation.key] at held ⊢
      simp [reply_eq wellNamed proper, Operation.answeredBy, held]
    · -- The record map holds what it held, and that says all that the server keeps.
      have unchanged : (Operation.create kind record).appliedTo (recordsAfter earlier)
          = recordsAfter earlier := by
        rw [Operation.appliedTo, RecordMap.create_of_some held]
      have later := after_represents server _ (wellNamed_append wellNamed proper)
      rw [recordsAfter_append, unchanged] at later
      exact later.unique (after_represents server earlier wellNamed)
  create_free {kind record} proper free := by
    have created : server.reply earlier (.create kind record) = .ok record :=
      (reply_create_eq_ok wellNamed proper).mpr (get?_of_absent wellNamed free)
    exact ⟨created, (stands_append _).mpr (.inr ⟨rfl, rfl, created⟩)⟩
  create_unplaced {kind record name} proper named unplaced free := by
    have own : (Operation.create kind record).key = ⟨"default", name⟩ :=
      Operation.key_create_of_unplaced named unplaced
    have fetchProper : (Operation.fetch kind "default" name).IsWellNamed := by
      obtain ⟨given, same, nameProper⟩ := proper.1
      obtain rfl := Option.some.inj (named.symm.trans same)
      exact ⟨isPathText_defaultNamespace, nameProper⟩
    have created : server.reply earlier (.create kind record) = .ok record :=
      (reply_create_eq_ok wellNamed proper).mpr (own ▸ get?_of_absent wellNamed free)
    have all := wellNamed_append wellNamed proper
    have held := (stands_iff _ all).mp ((stands_append _).mpr (.inr ⟨rfl, own, created⟩))
    rw [reply_eq all fetchProper, Operation.answeredBy, held]
  apart {other asked between} proper betweenProper askedProper unlike := by
    have short : ∀ operation ∈ earlier ++ between, operation.IsWellNamed := by
      simpa [or_imp, forall_and] using ⟨wellNamed, betweenProper⟩
    have long : ∀ operation ∈ earlier ++ other :: between, operation.IsWellNamed := by
      simpa [or_imp, forall_and] using ⟨wellNamed, proper, betweenProper⟩
    rw [reply_eq long askedProper, reply_eq short askedProper]
    exact Operation.answeredBy_congr server (get?_recordsAfter_of_apart unlike between)

/-- A server that answers the deletion of a pod with the pod. -/
def podServer : ApiServer where
  conflict _ key := ⟨"Failure", key.name ++ " already exists", "AlreadyExists", 409⟩
  absence _ key := ⟨"Failure", key.name ++ " not found", "NotFound", 404⟩
  showsDeleted kind := kind == .pod
  conflict_code _ _ := rfl
  absence_code _ _ := rfl

/-- The secret of an administrator, which names no namespace. -/
def adminSecret : Secret := { metadata := { name := some "admin" } }

/-- The secret is created, and a pod that is not there is deleted. -/
def secretCreated : List Operation :=
  [.create .secret adminSecret, .delete .pod "default" "admin"]

/-- After that the secret is found in the default namespace, and there is still no pod. -/
theorem podServer_keeps_contract :
    (∀ operation ∈ secretCreated, operation.IsWellNamed) ∧ podServer.KeepsContract secretCreated
      ∧ podServer.reply secretCreated (.fetch .secret "default" "admin") = .ok adminSecret
      ∧ podServer.reply secretCreated (.fetch .pod "default" "admin")
        = .error (.notFound "Pod" "default/admin") := by
  have named : IsName "admin" := by decide
  have wellNamed : ∀ operation ∈ secretCreated, operation.IsWellNamed := by
    intro operation listed
    simp only [secretCreated, List.mem_cons, List.not_mem_nil, or_false] at listed
    rcases listed with rfl | rfl
    · exact ⟨⟨"admin", rfl, named⟩, fun other given => absurd given (Option.not_mem_none other)⟩
    · exact ⟨isPathText_defaultNamespace, named⟩
  have contract := client_keeps_contract podServer secretCreated wellNamed
  have stands : podServer.Stands secretCreated .secret ⟨"default", "admin"⟩ adminSecret := by
    refine ⟨[], [.delete .pod "default" "admin"], rfl, rfl, ?_, ?_⟩
    · exact (reply_create_eq_ok (List.forall_mem_nil _)
        (wellNamed _ List.mem_cons_self)).mpr rfl
    · simp [Operation.Deletes]
  have absent : ∀ record, ¬ podServer.Stands secretCreated .pod ⟨"default", "admin"⟩ record := by
    intro record stands
    have held := (stands_iff secretCreated wellNamed).mp stands
    cases held
  exact ⟨wellNamed, contract, contract.fetch_standing ⟨isPathText_defaultNamespace, named⟩ stands,
    contract.fetch_absent ⟨isPathText_defaultNamespace, named⟩ absent⟩

end ApiServer

end DatabaseLifecycle.Cluster

import DatabaseLifecycle.Proofs.Store.Records
import DatabaseLifecycle.Proofs.Workflow.Exchanges
import DatabaseLifecycle.Rehearsal

/-!
Clusters that keep records in a map: how each call changes it, and what a whole run of calls can and
cannot change, while an operator rewrites statuses in between.
-/

namespace DatabaseLifecycle

/-- A record without what an operator reports about it. -/
def Kind.withoutStatus : (kind : Kind) → kind.Record → kind.Record
  | secret, record => record
  | server, record => { record with status := none }
  | database, record => { record with status := none }
  | pod, record => { record with status := none }
  | service, record => record

/-- A status is no part of what a record says about itself. -/
theorem Kind.metadata_withoutStatus (kind : Kind) (record : kind.Record) :
    kind.metadata (kind.withoutStatus record) = kind.metadata record := by
  cases kind <;> rfl

/-- Whether a call submits a record that lies under this key. -/
def Call.Creates (kind : Kind) (key : RecordKey) : Call → Prop
  | create other record => other = kind ∧ RecordKey.ofMetadata (other.metadata record) = key
  | _ => False

/-- Whether a call deletes what lies under this key. -/
def Call.Deletes (kind : Kind) (key : RecordKey) : Call → Prop
  | delete other namespaceName name => other = kind ∧ RecordKey.of namespaceName name = key
  | _ => False

/-- Whether an exchange is the accepted submission of this record, which lies under this key. -/
def Exchange.Stores (kind : Kind) (key : RecordKey) (record : kind.Record)
    (exchange : Exchange Call.interface) : Prop :=
  (∃ accepted, exchange = ⟨.create kind record, .ok accepted⟩)
    ∧ RecordKey.ofMetadata (kind.metadata record) = key

/-- What is stored under a key was submitted to it. -/
theorem Exchange.Stores.creates {kind : Kind} {key : RecordKey} {record : kind.Record}
    {exchange : Exchange Call.interface} (stores : exchange.Stores kind key record) :
    exchange.call.Creates kind key := by
  obtain ⟨⟨accepted, rfl⟩, own⟩ := stores
  exact ⟨rfl, own⟩

/-- A submission goes to the cluster. -/
theorem Call.Creates.isStoreCall {kind : Kind} {key : RecordKey} {call : Call}
    (creates : call.Creates kind key) : call.isStoreCall = true := by
  cases call with
  | create _ _ => rfl
  | fetch _ _ _ | delete _ _ _ | connect _ | lookup _ | sleep _ | log _ => exact creates.elim

/-- A deletion goes to the cluster. -/
theorem Call.Deletes.isStoreCall {kind : Kind} {key : RecordKey} {call : Call}
    (deletes : call.Deletes kind key) : call.isStoreCall = true := by
  cases call with
  | delete _ _ _ => rfl
  | create _ _ | fetch _ _ _ | connect _ | lookup _ | sleep _ | log _ => exact deletes.elim

namespace RecordMap

variable {start before after last : RecordMap} {kind : Kind} {key : RecordKey}

/-- What lies under a key, its status apart. -/
def view (map : RecordMap) (kind : Kind) (key : RecordKey) : Option kind.Record :=
  (map.get? kind key).map kind.withoutStatus

/-- One map is another in which statuses may have been rewritten. -/
def Agrees (first second : RecordMap) : Prop :=
  ∀ kind key, second.view kind key = first.view kind key

/-- Every record lies under the key that its own namespace and name make. -/
def WellKeyed (map : RecordMap) : Prop :=
  ∀ kind key record, map.get? kind key = some record →
    RecordKey.ofMetadata (kind.metadata record) = key

/-- How a map answers a call: a submission is accepted only if nothing lies under its key, a fetch
finds nothing but what is there, and a deletion always succeeds. -/
def Answers (before : RecordMap) : (call : Call) → call.Reply → RecordMap → Prop
  | .create kind record, .ok _, after =>
    before.get? kind (.ofMetadata (kind.metadata record)) = none
      ∧ after = before.insert kind (.ofMetadata (kind.metadata record)) record
  | .create _ _, .error _, after => after = before
  | .fetch kind namespaceName name, reply, after =>
    (∀ record, reply = .ok record → before.get? kind (.of namespaceName name) = some record)
      ∧ after = before
  | .delete kind namespaceName name, reply, after =>
    reply = .ok () ∧ after = before.erase kind (.of namespaceName name)
  | .connect _, _, after | .lookup _, _, after | .sleep _, _, after | .log _, _, after =>
    after = before

/-- A map gives the replies of exchanges and ends as another; before each call statuses may be
rewritten. -/
inductive Serves : RecordMap → Exchanges → RecordMap → Prop where
  | done (map : RecordMap) : Serves map [] map
  | answered {start before after last : RecordMap} {exchange : Exchange Call.interface}
      {rest : Exchanges} (rewritten : Agrees start before)
      (answers : before.Answers exchange.call exchange.reply after)
      (served : Serves after rest last) : Serves start (exchange :: rest) last

/-- A cluster keeps its records in a map. -/
def KeptBy {σ : Type} (handle : Program.Handler Call.interface σ) (records : σ → RecordMap) : Prop :=
  ∀ call state, ∃ before, Agrees (records state) before
    ∧ before.Answers call (handle call state).1 (records (handle call state).2)

/-- Nothing is seen under a key exactly when nothing lies there. -/
theorem view_eq_none {map : RecordMap} : map.view kind key = none ↔ map.get? kind key = none :=
  Option.map_eq_none_iff

/-- Rewritten statuses leave records under their keys. -/
theorem WellKeyed.of_agrees (keyed : start.WellKeyed) (agrees : Agrees start before) :
    before.WellKeyed := by
  -- A rewritten record has the metadata of the one that it stands for.
  intro kind key record found
  have seen := agrees kind key
  rw [view, view, found, Option.map_some] at seen
  obtain ⟨original, present, same⟩ := Option.map_eq_some_iff.mp seen.symm
  rw [← kind.metadata_withoutStatus record, ← same, kind.metadata_withoutStatus]
  exact keyed kind key original present

/-- A call changes what lies under a key only by an accepted submission to it, or by clearing it. -/
theorem get?_of_answers (exchange : Exchange Call.interface)
    (answers : before.Answers exchange.call exchange.reply after) (kind : Kind) (key : RecordKey) :
    after.get? kind key = before.get? kind key
      ∨ (∃ record, exchange.Stores kind key record)
      ∨ (exchange.call.Deletes kind key ∧ after.get? kind key = none) := by
  obtain ⟨call, reply⟩ := exchange
  -- Each call has one key that it may change, and every other key is found as before.
  cases call with
  | create other record =>
    cases reply with
    | error error =>
      obtain rfl : after = before := answers
      exact Or.inl rfl
    | ok accepted =>
      -- An accepted submission takes its key.
      obtain ⟨_, rfl⟩ := answers
      by_cases here : other = kind ∧ RecordKey.ofMetadata (other.metadata record) = key
      · obtain ⟨rfl, own⟩ := here
        exact Or.inr (Or.inl ⟨record, ⟨accepted, rfl⟩, own⟩)
      · refine Or.inl ?_
        by_cases same : other = kind
        · subst same
          have elsewhere : ¬ key = RecordKey.ofMetadata (other.metadata record) :=
            fun equal => here ⟨rfl, equal.symm⟩
          rw [get?_insert, if_neg elsewhere]
        · rw [get?_insert_of_ne same]
  -- A fetch only reads.
  | fetch other namespaceName name =>
    obtain ⟨_, rfl⟩ := answers
    exact Or.inl rfl
  | delete other namespaceName name =>
    obtain ⟨_, rfl⟩ := answers
    -- A deletion clears its key, taken or not.
    by_cases here : other = kind ∧ RecordKey.of namespaceName name = key
    · obtain ⟨rfl, rfl⟩ := here
      refine Or.inr (Or.inr ⟨⟨rfl, rfl⟩, ?_⟩)
      rw [get?_erase, if_pos rfl]
    · refine Or.inl ?_
      by_cases same : other = kind
      · subst same
        have elsewhere : ¬ key = RecordKey.of namespaceName name :=
          fun equal => here ⟨rfl, equal.symm⟩
        rw [get?_erase, if_neg elsewhere]
      · rw [get?_erase_of_ne same]
  | connect _ | lookup _ | sleep _ | log _ =>
    obtain rfl : after = before := answers
    exact Or.inl rfl

/-- A record is stored only under a key that is free, and then it lies there. -/
theorem get?_of_stores {exchange : Exchange Call.interface} {record : kind.Record}
    (answers : before.Answers exchange.call exchange.reply after)
    (stores : exchange.Stores kind key record) :
    before.get? kind key = none ∧ after.get? kind key = some record := by
  obtain ⟨⟨accepted, rfl⟩, rfl⟩ := stores
  obtain ⟨free, rfl⟩ := answers
  refine ⟨free, ?_⟩
  rw [get?_insert, if_pos rfl]

/-- What is seen under a key changes only where a call submits to it while it is free, or clears it. -/
theorem view_of_answers {call : Call} {reply : call.Reply} (answers : before.Answers call reply after)
    (kind : Kind) (key : RecordKey) :
    after.view kind key = before.view kind key
      ∨ (call.Creates kind key ∧ before.view kind key = none)
      ∨ (call.Deletes kind key ∧ after.view kind key = none) := by
  have changes := get?_of_answers ⟨call, reply⟩ answers kind key
  rcases changes with same | ⟨record, stores⟩ | ⟨deletes, cleared⟩
  · exact Or.inl (congrArg (Option.map kind.withoutStatus) same)
  · obtain ⟨free, _⟩ := get?_of_stores answers stores
    exact Or.inr (Or.inl ⟨stores.creates, view_eq_none.mpr free⟩)
  · exact Or.inr (Or.inr ⟨deletes, view_eq_none.mpr cleared⟩)

/-- Deleting a key clears it. -/
theorem view_of_deletes {call : Call} {reply : call.Reply} (answers : before.Answers call reply after)
    (deletes : call.Deletes kind key) : after.view kind key = none := by
  -- Only deletions delete, and erasing leaves nothing under the key.
  cases call with
  | delete other namespaceName name =>
    obtain ⟨rfl, rfl⟩ := deletes
    obtain ⟨_, rfl⟩ := answers
    rw [view_eq_none, get?_erase, if_pos rfl]
  | create _ _ | fetch _ _ _ | connect _ | lookup _ | sleep _ | log _ => cases deletes

/-- A call leaves every record under its own key. -/
theorem WellKeyed.of_answers {call : Call} {reply : call.Reply} (keyed : before.WellKeyed)
    (answers : before.Answers call reply after) : after.WellKeyed := by
  -- Only an accepted submission adds a record, and it lies where its metadata says.
  cases call with
  | create other record =>
    cases reply with
    | error error =>
      obtain rfl : after = before := answers
      exact keyed
    | ok accepted =>
      obtain ⟨_, rfl⟩ := answers
      intro kind key stored found
      by_cases same : other = kind
      · subst same
        rw [get?_insert] at found
        -- What is found is either the new record under its own key or one from before.
        by_cases here : key = RecordKey.ofMetadata (other.metadata record)
        · rw [if_pos here, Option.some_inj] at found
          rw [here, found]
        · rw [if_neg here] at found
          exact keyed _ _ _ found
      · rw [get?_insert_of_ne same] at found
        exact keyed _ _ _ found
  | fetch other namespaceName name =>
    obtain ⟨_, rfl⟩ := answers
    exact keyed
  | delete other namespaceName name =>
    obtain ⟨_, rfl⟩ := answers
    intro kind key stored found
    by_cases same : other = kind
    · subst same
      rw [get?_erase] at found
      -- Nothing is found under the erased key, and the other records were there before.
      by_cases here : key = RecordKey.of namespaceName name
      · rw [if_pos here] at found
        cases found
      · rw [if_neg here] at found
        exact keyed _ _ _ found
    · rw [get?_erase_of_ne same] at found
      exact keyed _ _ _ found
  | connect _ | lookup _ | sleep _ | log _ =>
    obtain rfl : after = before := answers
    exact keyed

/-- An empty map has no record under a wrong key. -/
theorem wellKeyed_empty : empty.WellKeyed := by
  intro kind key record found
  cases found

end RecordMap

namespace Rehearsal

/-- A rehearsal without cues, of which nothing but the records is kept. -/
def plain : Program.Handler Call.interface RecordMap := fun call records =>
  ((answer call { records }).1, (answer call { records }).2.records)

/-- Without cues a submission to a key that is taken is refused, and any other is accepted. -/
theorem plain_create (kind : Kind) (record : kind.Record) (records : RecordMap) :
    plain (.create kind record) records =
      match records.get? kind (.ofMetadata (kind.metadata record)) with
      | some _ => (.error (alreadyExists kind (kind.metadata record).effectiveName), records)
      | none => (.ok record, records.insert kind (.ofMetadata (kind.metadata record)) record) := by
  simp only [plain, answer, heard, create, nextStoreCue, Cues.next, List.lookup_nil,
    RecordMap.create]
  cases records.get? kind (.ofMetadata (kind.metadata record)) <;> rfl

/-- Without cues a fetch gives what lies under its key. -/
theorem plain_fetch (kind : Kind) (namespaceName name : String) (records : RecordMap) :
    plain (.fetch kind namespaceName name) records =
      (match records.get? kind (.of namespaceName name) with
        | some record => .ok record
        | none => .error (.notFound kind.name (namespaceName ++ "/" ++ name)), records) := rfl

/-- Without cues each call is answered from the records as they are. -/
theorem answers_plain (call : Call) (records : RecordMap) :
    records.Answers call (plain call records).1 (plain call records).2 := by
  cases call with
  | create kind record =>
    simp only [plain, answer, heard, create, nextStoreCue, Cues.next, List.lookup_nil,
      RecordMap.create]
    -- A submission is turned away when its key is taken, and then nothing changes.
    cases present : records.get? kind (.ofMetadata (kind.metadata record)) with
    | none => exact ⟨present, rfl⟩
    | some other => rfl
  | fetch kind namespaceName name =>
    simp only [plain, answer, heard, fetch, nextStoreCue, Cues.next, List.lookup_nil]
    -- A fetch finds what the map has, or nothing.
    cases present : records.get? kind (.of namespaceName name) with
    | none =>
      refine ⟨fun record found => ?_, rfl⟩
      cases found
    | some stored =>
      refine ⟨fun record found => ?_, rfl⟩
      rw [present, Except.ok.inj found]
  | delete kind namespaceName name => exact ⟨rfl, rfl⟩
  | connect credentials => rfl
  | lookup wanted => rfl
  | sleep milliseconds => rfl
  | log line => rfl

/-- A rehearsal without cues keeps its records in a map. -/
theorem keptBy_plain : RecordMap.KeptBy plain id :=
  -- Without cues no status is ever rewritten.
  fun call records => ⟨records, fun _ _ => rfl, answers_plain call records⟩

end Rehearsal

end DatabaseLifecycle

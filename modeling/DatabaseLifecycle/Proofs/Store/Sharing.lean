import DatabaseLifecycle.Proofs.Interleaving
import DatabaseLifecycle.Proofs.Store.Keeping
import Mathlib.Data.List.Pairwise

/-!
Stores that workflows share: each call is answered at once, by a record map that the calls of the others
have left, and an operator rewrites statuses in between.
-/

namespace DatabaseLifecycle

/-- A rewriting of statuses. -/
structure StatusUpdate where
  /-- What becomes of a record under a key. -/
  rewrite : (kind : Kind) → RecordKey → kind.Record → kind.Record
  /-- Only its status changes. -/
  keeps : ∀ (kind : Kind) (key : RecordKey) (record : kind.Record),
    kind.withoutStatus (rewrite kind key record) = kind.withoutStatus record

namespace StatusUpdate

variable {ι : Type}

/-- The map with rewritten statuses. -/
def applied (update : StatusUpdate) (map : RecordMap) : RecordMap :=
  ⟨fun kind => (map.entries kind).map fun entry => (entry.1, update.rewrite kind entry.1 entry.2)⟩

/-- What the operator makes of a record in the course of a schedule. -/
def overall (kind : Kind) (key : RecordKey) :
    List (Turn ι StatusUpdate) → kind.Record → kind.Record
  | [], record => record
  | .run _ :: rest, record => overall kind key rest record
  | .change update :: rest, record => overall kind key rest (update.rewrite kind key record)

/-- A record is found rewritten. -/
theorem get?_applied (update : StatusUpdate) (map : RecordMap) (kind : Kind) (key : RecordKey) :
    (update.applied map).get? kind key = (map.get? kind key).map (update.rewrite kind key) := by
  -- Keys stay as they are, so the same entry is found, and only its record has changed.
  simp only [RecordMap.get?, applied]
  induction map.entries kind with
  | nil => rfl
  | cons entry rest found =>
    obtain ⟨other, record⟩ := entry
    simp only [List.map_cons, List.lookup_cons]
    by_cases same : key = other
    · simp [same]
    · simp [beq_eq_false_iff_ne.mpr same, found]

/-- The operator changes nothing but statuses. -/
theorem withoutStatus_overall (kind : Kind) (key : RecordKey)
    (schedule : List (Turn ι StatusUpdate)) (record : kind.Record) :
    kind.withoutStatus (overall kind key schedule record) = kind.withoutStatus record := by
  induction schedule generalizing record with
  | nil => rfl
  | cons turn rest kept =>
    cases turn with
    | run index => exact kept record
    | change update => exact (kept _).trans (update.keeps kind key record)

end StatusUpdate

/-- A store that workflows share. -/
structure SharedStore (σ : Type) where
  /-- How a call is answered. -/
  handle : Program.Handler Call.interface σ
  /-- How statuses are rewritten. -/
  change : StatusUpdate → σ → σ
  /-- The records of the store. -/
  records : σ → RecordMap
  /-- Each call is answered from the records as they are. -/
  answers : ∀ (call : Call) (state : σ),
    (records state).Answers call (handle call state).1 (records (handle call state).2)
  /-- An operator rewrites the records as they are. -/
  changes : ∀ (update : StatusUpdate) (state : σ),
    records (change update state) = update.applied (records state)

namespace Exchange

/-- Whether an exchange is an accepted submission to this key. -/
def Takes (kind : Kind) (key : RecordKey) (exchange : Exchange Call.interface) : Prop :=
  ∃ record, exchange.Stores kind key record

/-- Two exchanges are not both accepted submissions to one key. -/
def Apart (first second : Exchange Call.interface) : Prop :=
  ∀ kind key, ¬ (first.Takes kind key ∧ second.Takes kind key)

/-- It does not matter which exchange comes first. -/
theorem Apart.symm {first second : Exchange Call.interface} (apart : first.Apart second) :
    second.Apart first := fun kind key both => apart kind key both.symm

end Exchange

namespace SharedStore

variable {ι σ α : Type} {kind : Kind} {key : RecordKey}

/-- A rehearsal without cues is a store that can be shared. -/
def rehearsed : SharedStore RecordMap where
  handle := Rehearsal.plain
  change := StatusUpdate.applied
  records := id
  answers := Rehearsal.answers_plain
  changes _ _ := rfl

variable (store : SharedStore σ)

/-- What lies under a key while workflows share the store. -/
def at? (pool : Pool Call.interface ι σ α) (kind : Kind) (key : RecordKey) : Option kind.Record :=
  (store.records pool.state).get? kind key

/-- Workflows that share a store without ever deleting from it: what they have stored is there, each of
it under a key of its own, and there is nothing else but what was there at the start. -/
structure Filling (start : RecordMap) (pool : Pool Call.interface ι σ α) : Prop where
  /-- Nothing is going to be deleted. -/
  undeleting : ∀ index, (pool.programs index).MakesOnly fun call : Call => ∀ kind key,
    ¬ call.Deletes kind key
  /-- What was there at the start is still there. -/
  kept : ∀ kind key, start.get? kind key ≠ none → store.at? pool kind key ≠ none
  /-- Where something was stored there is something. -/
  taken : ∀ entry ∈ pool.log, ∀ kind key, entry.2.Takes kind key → store.at? pool kind key ≠ none
  /-- Nothing was stored twice under one key. -/
  once : pool.log.Pairwise fun first second => first.2.Apart second.2
  /-- What is there was there at the start, or it was stored. -/
  source : ∀ kind key, store.at? pool kind key ≠ none →
    start.get? kind key ≠ none ∨ ∃ entry ∈ pool.log, entry.2.Takes kind key

variable {store} {pool : Pool Call.interface ι σ α} {start : RecordMap}

/-- A rewriting of statuses rewrites what is there. -/
theorem at?_changed (update : StatusUpdate) (kind : Kind) (key : RecordKey) :
    store.at? { pool with state := store.change update pool.state } kind key
      = (store.at? pool kind key).map (update.rewrite kind key) := by
  unfold at?
  rw [store.changes, update.get?_applied]

/-- Before the first call the store has what it started with. -/
theorem filling_start {state : σ} {programs : ι → Workflow α}
    (undeleting : ∀ index, (programs index).MakesOnly fun call : Call => ∀ kind key,
      ¬ call.Deletes kind key) :
    store.Filling (store.records state) (Pool.start state programs) where
  undeleting := undeleting
  kept _ _ present := present
  taken _ listed := absurd listed List.not_mem_nil
  once := List.Pairwise.nil
  source _ _ present := Or.inl present

/-- A rewriting of statuses adds nothing and takes nothing away. -/
theorem Filling.changed (filling : store.Filling start pool) (update : StatusUpdate) :
    store.Filling start { pool with state := store.change update pool.state } := by
  -- A status is rewritten only where there is a record, so the keys stay the same.
  have same (kind : Kind) (key : RecordKey) :
      store.at? { pool with state := store.change update pool.state } kind key ≠ none
        ↔ store.at? pool kind key ≠ none := by
    rw [at?_changed, ne_eq, ne_eq, Option.map_eq_none_iff]
  exact {
    undeleting := filling.undeleting
    kept := fun kind key present => (same kind key).mpr (filling.kept kind key present)
    taken := fun entry listed kind key takes =>
      (same kind key).mpr (filling.taken entry listed kind key takes)
    once := filling.once
    source := fun kind key present => filling.source kind key ((same kind key).mp present) }

/-- A key that something was stored under was taken by one workflow only. -/
theorem Filling.index_eq (filling : store.Filling start pool) {first second : ι}
    {one other : Exchange Call.interface} (listed : (first, one) ∈ pool.log)
    (among : (second, other) ∈ pool.log) (takes : one.Takes kind key)
    (also : other.Takes kind key) : first = second := by
  have symmetric : Std.Symm fun first second : ι × Exchange Call.interface =>
      first.2.Apart second.2 := ⟨fun _ _ => Exchange.Apart.symm⟩
  -- Entries of different workflows are different, so they take no key together.
  refine Classical.byContradiction fun different => ?_
  have apart := filling.once.forall listed among fun same => different (congrArg Prod.fst same)
  exact apart kind key ⟨takes, also⟩

variable [DecidableEq ι]

/-- The workflows after the turns of a schedule. -/
abbrev play (store : SharedStore σ) (pool : Pool Call.interface ι σ α)
    (schedule : List (Turn ι StatusUpdate)) : Pool Call.interface ι σ α :=
  pool.play store.handle store.change schedule

/-- Without deletions a call leaves what is there. -/
theorem at?_answered {index : ι} {asked : Call} {next : asked.Reply → Workflow α}
    {record : kind.Record} (undeleting : ¬ asked.Deletes kind key)
    (present : store.at? pool kind key = some record) :
    store.at? (pool.answered store.handle index asked next) kind key = some record := by
  have changes := RecordMap.get?_of_answers ⟨asked, (store.handle asked pool.state).1⟩
    (store.answers asked pool.state) kind key
  rcases changes with same | ⟨stored, stores⟩ | ⟨deletes, _⟩
  · exact same.trans present
  · -- A submission to a key that is taken is not accepted.
    obtain ⟨free, _⟩ := RecordMap.get?_of_stores (store.answers asked pool.state) stores
    exact absurd (free.symm.trans present) (Option.some_ne_none record).symm
  · exact absurd deletes undeleting

/-- What lies under a key stays there, but for what the operator makes of it, as long as no workflow
deletes it. -/
theorem at?_play {schedule : List (Turn ι StatusUpdate)} {record : kind.Record}
    (undeleting : ∀ index, (pool.programs index).MakesOnly fun call : Call => ¬ call.Deletes kind key)
    (present : store.at? pool kind key = some record) :
    store.at? (store.play pool schedule) kind key
      = some (StatusUpdate.overall kind key schedule record) := by
  -- The record is followed through the schedule turn by turn.
  induction schedule generalizing pool record with
  | nil => exact present
  | cons turn rest followed =>
    have remaining := Pool.makesOnly_play store.handle store.change [turn] undeleting
    cases turn with
    | change update =>
      exact followed remaining ((at?_changed update kind key).trans (congrArg _ present))
    | run index =>
      refine followed remaining ?_
      cases asks : pool.programs index with
      | done value =>
        rw [Pool.turn_of_done asks]
        exact present
      | ask asked next =>
        have allowed := undeleting index
        rw [asks] at allowed
        rw [Pool.turn_of_ask asks]
        exact at?_answered allowed.1 present

/-- A call adds at most one record, under a key that was free. -/
theorem Filling.answered {index : ι} {asked : Call} {next : asked.Reply → Workflow α}
    (filling : store.Filling start pool) (asks : pool.programs index = .ask asked next) :
    store.Filling start (pool.answered store.handle index asked next) := by
  have allowed := filling.undeleting index
  rw [asks] at allowed
  -- What was there before the call is there after it.
  have stays {kind : Kind} {key : RecordKey} (present : store.at? pool kind key ≠ none) :
      store.at? (pool.answered store.handle index asked next) kind key ≠ none := by
    obtain ⟨record, found⟩ := Option.ne_none_iff_exists'.mp present
    rw [at?_answered (allowed.1 kind key) found]
    exact Option.some_ne_none record
  -- What the call stores had a free key, and is there after it.
  have stored {kind : Kind} {key : RecordKey}
      (takes : Exchange.Takes kind key ⟨asked, (store.handle asked pool.state).1⟩) :
      store.at? pool kind key = none
        ∧ store.at? (pool.answered store.handle index asked next) kind key ≠ none := by
    obtain ⟨record, stores⟩ := takes
    obtain ⟨free, found⟩ := RecordMap.get?_of_stores (store.answers asked pool.state) stores
    exact ⟨free, fun gone => Option.some_ne_none record (found.symm.trans gone)⟩
  constructor
  case undeleting =>
    have remaining := Pool.makesOnly_play store.handle store.change [.run index]
      filling.undeleting
    rwa [Pool.play_cons, Pool.play_nil, Pool.turn_of_ask asks] at remaining
  case kept => exact fun kind key present => stays (filling.kept kind key present)
  case taken =>
    intro entry listed kind key takes
    rcases List.mem_append.mp listed with old | new
    · exact stays (filling.taken entry old kind key takes)
    · obtain rfl := List.mem_singleton.mp new
      exact (stored takes).2
  case once =>
    refine List.pairwise_append.mpr ⟨filling.once, List.pairwise_singleton _ _, ?_⟩
    -- A key that was taken earlier is not free for the new submission.
    rintro entry old other new kind key ⟨earlier, takes⟩
    obtain rfl := List.mem_singleton.mp new
    exact filling.taken entry old kind key earlier (stored takes).1
  case source =>
    intro kind key present
    have changes := RecordMap.get?_of_answers ⟨asked, (store.handle asked pool.state).1⟩
      (store.answers asked pool.state) kind key
    rcases changes with same | takes | ⟨deletes, _⟩
    · have before : store.at? pool kind key ≠ none := fun free => present (same.trans free)
      rcases filling.source kind key before with initial | ⟨entry, listed, takes⟩
      · exact Or.inl initial
      · exact Or.inr ⟨entry, List.mem_append_left _ listed, takes⟩
    · exact Or.inr ⟨_, List.mem_append_right _ List.mem_cons_self, takes⟩
    · exact absurd deletes (allowed.1 kind key)

/-- Workflows that never delete fill the store, whatever the schedule. -/
theorem filling_play (store : SharedStore σ) (state : σ) {programs : ι → Workflow α}
    (undeleting : ∀ index, (programs index).MakesOnly fun call : Call => ∀ kind key,
      ¬ call.Deletes kind key) (schedule : List (Turn ι StatusUpdate)) :
    store.Filling (store.records state) (store.play (Pool.start state programs) schedule) :=
  Pool.play_preserves (store.Filling (store.records state))
    (fun _ _ _ _ asks filling => filling.answered asks) (fun _ update filling => filling.changed update)
    schedule (filling_start undeleting)

/-- One workflow stores nothing twice under one key either. -/
theorem Filling.once_own (filling : store.Filling start pool) (index : ι) :
    (pool.exchanges index).Pairwise Exchange.Apart := by
  refine filling.once.filterMap _ fun first second apart => ?_
  intro one own other others
  -- The exchanges of one workflow are among those of all.
  obtain ⟨_, ⟨⟩⟩ := Option.ite_none_right_eq_some.mp own
  obtain ⟨_, ⟨⟩⟩ := Option.ite_none_right_eq_some.mp others
  exact apart

/-- A record that was stored in the course of a schedule went to a key that was free until then, in the
turn of the workflow that submitted it, and lies there in the end, but for what the operator has made of
it. -/
theorem Filling.of_stores {state : σ} {programs : ι → Workflow α}
    {schedule : List (Turn ι StatusUpdate)} {index : ι} {exchange : Exchange Call.interface}
    {record : kind.Record} (undeleting : ∀ index, (programs index).MakesOnly fun call : Call =>
      ∀ kind key, ¬ call.Deletes kind key)
    (listed : (index, exchange) ∈ (store.play (Pool.start state programs) schedule).log)
    (stores : exchange.Stores kind key record) :
    (store.records state).get? kind key = none ∧ ∃ earlier later,
      schedule = earlier ++ .run index :: later
        ∧ store.at? (store.play (Pool.start state programs) earlier) kind key = none
        ∧ store.at? (store.play (Pool.start state programs) schedule) kind key
          = some (StatusUpdate.overall kind key later record) := by
  rcases Pool.mem_log_play listed with never | ⟨earlier, later, next, rfl, asks, replied⟩
  · exact absurd never List.not_mem_nil
  · -- The store before the submission, and the one right after it.
    have filling := filling_play store state undeleting earlier
    have answers := store.answers exchange.call
      (store.play (Pool.start state programs) earlier).state
    rw [replied] at answers
    obtain ⟨free, found⟩ := RecordMap.get?_of_stores answers stores
    have after := filling.answered asks
    refine ⟨?_, earlier, later, rfl, free, ?_⟩
    · exact Classical.byContradiction fun present => filling.kept kind key present free
    · rw [play, Pool.play_append, Pool.play_cons, Pool.turn_of_ask asks]
      refine at?_play (fun other => ?_) found
      exact (after.undeleting other).mono fun call undeleted => undeleted kind key

end SharedStore

end DatabaseLifecycle

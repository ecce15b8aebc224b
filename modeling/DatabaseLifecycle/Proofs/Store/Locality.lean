import DatabaseLifecycle.Proofs.Store.Sharing

/-!
Locality: a call depends on what lies under the key that it names and changes nothing else, so workflows
with keys of their own do not notice each other.
-/

namespace DatabaseLifecycle

/-- Whether a call fetches what lies under this key. -/
def Call.Fetches (kind : Kind) (key : RecordKey) : Call → Prop
  | fetch other namespaceName name => other = kind ∧ RecordKey.of namespaceName name = key
  | _ => False

/-- Whether a call is about what lies under this key. -/
def Call.Touches (kind : Kind) (key : RecordKey) (call : Call) : Prop :=
  call.Creates kind key ∨ call.Fetches kind key ∨ call.Deletes kind key

/-- A call about a key goes to the cluster. -/
theorem Call.Touches.isStoreCall {kind : Kind} {key : RecordKey} {call : Call}
    (touches : call.Touches kind key) : call.isStoreCall = true := by
  rcases touches with creates | fetches | deletes
  · exact creates.isStoreCall
  · cases call with
    | fetch _ _ _ => rfl
    | create _ _ | delete _ _ _ | connect _ | lookup _ | sleep _ | log _ => exact fetches.elim
  · exact deletes.isStoreCall

/-- Whether a turn is of this program or of those outside. -/
def Turn.concerns {ι υ : Type} [DecidableEq ι] (index : ι) : Turn ι υ → Bool
  | .run other => other = index
  | .change _ => true

namespace RecordMap

variable {first second after later : RecordMap} {kind : Kind} {key : RecordKey}

/-- A call leaves alone what it is not about. -/
theorem get?_of_untouched (exchange : Exchange Call.interface)
    (answers : first.Answers exchange.call exchange.reply after)
    (untouched : ¬ exchange.call.Touches kind key) : after.get? kind key = first.get? kind key := by
  rcases get?_of_answers exchange answers kind key with same | ⟨record, stores⟩ | ⟨deletes, _⟩
  · exact same
  · exact absurd (Or.inl stores.creates) untouched
  · exact absurd (Or.inr (Or.inr deletes)) untouched

/-- A call that is answered alike by two maps with the same record under a key leaves them so. -/
theorem get?_congr (exchange : Exchange Call.interface)
    (answers : first.Answers exchange.call exchange.reply after)
    (others : second.Answers exchange.call exchange.reply later)
    (same : first.get? kind key = second.get? kind key) :
    after.get? kind key = later.get? kind key := by
  by_cases deletes : exchange.call.Deletes kind key
  · -- Either map has nothing under a key that is deleted.
    have cleared := view_eq_none.mp (view_of_deletes answers deletes)
    rw [cleared, view_eq_none.mp (view_of_deletes others deletes)]
  · rcases get?_of_answers exchange answers kind key with kept | ⟨record, stores⟩ | ⟨absurdly, _⟩
    · rcases get?_of_answers exchange others kind key with also | ⟨record, stores⟩ | ⟨absurdly, _⟩
      · rw [kept, also, same]
      · rw [(get?_of_stores answers stores).2, (get?_of_stores others stores).2]
      · exact absurd absurdly deletes
    · rw [(get?_of_stores answers stores).2, (get?_of_stores others stores).2]
    · exact absurd absurdly deletes

end RecordMap

/-- A store in which the reply to a call depends on nothing but what the call is about. -/
structure LocalStore (σ : Type) extends SharedStore σ where
  /-- States that have the same records under the keys of a call give it the same reply. -/
  determined : ∀ (call : Call) (first second : σ),
    (∀ kind key, call.Touches kind key →
      (records first).get? kind key = (records second).get? kind key) →
    (handle call first).1 = (handle call second).1

namespace LocalStore

/-- A rehearsal without cues depends on nothing but its records. -/
def rehearsed : LocalStore RecordMap where
  toSharedStore := .rehearsed
  determined := by
    intro call first second same
    cases call with
    | create kind record =>
      have own := same kind (.ofMetadata (kind.metadata record)) (Or.inl ⟨rfl, rfl⟩)
      change first.get? kind _ = second.get? kind _ at own
      change (Rehearsal.plain (.create kind record) first).1
        = (Rehearsal.plain (.create kind record) second).1
      -- Whether the submission is accepted depends on whether its key is free.
      rw [Rehearsal.plain_create, Rehearsal.plain_create, own]
      cases second.get? kind (.ofMetadata (kind.metadata record)) <;> rfl
    | fetch kind namespaceName name =>
      have own := same kind (.of namespaceName name) (Or.inr (Or.inl ⟨rfl, rfl⟩))
      change first.get? kind _ = second.get? kind _ at own
      change (Rehearsal.plain (.fetch kind namespaceName name) first).1
        = (Rehearsal.plain (.fetch kind namespaceName name) second).1
      rw [Rehearsal.plain_fetch, Rehearsal.plain_fetch, own]
    | delete _ _ _ | connect _ | lookup _ | sleep _ | log _ => rfl

variable {ι σ α : Type} [DecidableEq ι] {store : LocalStore σ}
  {owned : ι → Kind → RecordKey → Prop} {index : ι} {whole alone : Pool Call.interface ι σ α}

variable (store owned index whole alone) in
/-- To one workflow two pools look alike: it has made the same exchanges in both, has the same to do, and
finds the same under its keys. -/
structure Alike : Prop where
  /-- What it has still to do. -/
  programs : alone.programs index = whole.programs index
  /-- What it has exchanged. -/
  exchanges : alone.exchanges index = whole.exchanges index
  /-- What lies under its keys. -/
  records : ∀ kind key, owned index kind key →
    store.at? alone kind key = store.at? whole kind key

/-- After a call of its own both pools look alike to a workflow. -/
theorem Alike.answered (alike : store.Alike owned index whole alone) {asked : Call}
    {next : asked.Reply → Workflow α}
    (within : ∀ kind key, asked.Touches kind key → owned index kind key) :
    store.Alike owned index (whole.answered store.handle index asked next)
      (alone.answered store.handle index asked next) := by
  -- The call is about keys of the workflow, where both pools have the same records.
  have replied : (store.handle asked alone.state).1 = (store.handle asked whole.state).1 :=
    store.determined asked _ _ fun kind key touches =>
      alike.records kind key (within kind key touches)
  constructor
  case programs => rw [Pool.programs_answered, Pool.programs_answered, replied]
  case exchanges => rw [Pool.exchanges_answered, Pool.exchanges_answered, alike.exchanges, replied]
  case records =>
    intro kind key own
    have answers := store.answers asked alone.state
    rw [replied] at answers
    exact RecordMap.get?_congr ⟨asked, (store.handle asked whole.state).1⟩ answers
      (store.answers asked whole.state) (alike.records kind key own)

/-- A call of another workflow, about other keys, goes unnoticed. -/
theorem Alike.answered_other (alike : store.Alike owned index whole alone) {other : ι}
    (different : index ≠ other) {asked : Call} {next : asked.Reply → Workflow α}
    (outside : ∀ kind key, asked.Touches kind key → ¬ owned index kind key) :
    store.Alike owned index (whole.answered store.handle other asked next) alone := by
  -- The workflow itself stands still, and what the call changes is not its own.
  constructor
  case programs => rw [Pool.programs_answered_of_ne different, alike.programs]
  case exchanges => rw [Pool.exchanges_answered_of_ne different, alike.exchanges]
  case records =>
    intro kind key own
    have untouched : ¬ asked.Touches kind key := fun touches => outside kind key touches own
    have kept := RecordMap.get?_of_untouched ⟨asked, (store.handle asked whole.state).1⟩
      (store.answers asked whole.state) untouched
    exact (alike.records kind key own).trans kept.symm

/-- Statuses are rewritten alike. -/
theorem Alike.changed (alike : store.Alike owned index whole alone) (update : StatusUpdate) :
    store.Alike owned index { whole with state := store.change update whole.state }
      { alone with state := store.change update alone.state } where
  programs := alike.programs
  exchanges := alike.exchanges
  records kind key own := by
    rw [SharedStore.at?_changed, SharedStore.at?_changed, alike.records kind key own]

/-- What a workflow does, and what becomes of its keys, is the same without the turns of the others, as
long as no two workflows make calls about one key. -/
theorem Alike.played
    (within : ∀ index, (whole.programs index).MakesOnly fun call : Call => ∀ kind key,
      call.Touches kind key → owned index kind key)
    (apart : ∀ first second, first ≠ second → ∀ kind key, owned first kind key →
      ¬ owned second kind key)
    (schedule : List (Turn ι StatusUpdate)) (alike : store.Alike owned index whole alone) :
    store.Alike owned index (store.play whole schedule)
      (store.play alone (schedule.filter (·.concerns index))) := by
  -- The turns are played one by one; those of the others are left out on one side.
  induction schedule generalizing whole alone with
  | nil => exact alike
  | cons turn rest played =>
    have remaining := Pool.makesOnly_play store.handle store.change [turn] within
    cases turn with
    | change update => exact played remaining (alike.changed update)
    | run other =>
      by_cases same : other = index
      · subst same
        rw [List.filter_cons_of_pos (by simp [Turn.concerns])]
        refine played remaining ?_
        cases asks : whole.programs other with
        | done value =>
          rw [Pool.turn_of_done asks, Pool.turn_of_done (alike.programs.trans asks)]
          exact alike
        | ask asked next =>
          have allowed := within other
          rw [asks] at allowed
          rw [Pool.turn_of_ask asks, Pool.turn_of_ask (alike.programs.trans asks)]
          exact alike.answered allowed.1
      · rw [List.filter_cons_of_neg (by simpa [Turn.concerns] using same)]
        refine played remaining ?_
        cases asks : whole.programs other with
        | done value =>
          rw [Pool.turn_of_done asks]
          exact alike
        | ask asked next =>
          have allowed := within other
          rw [asks] at allowed
          rw [Pool.turn_of_ask asks]
          refine alike.answered_other (Ne.symm same) fun kind key touches => ?_
          exact apart other index same kind key (allowed.1 kind key touches)

end LocalStore

end DatabaseLifecycle

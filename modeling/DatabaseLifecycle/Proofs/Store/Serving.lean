import DatabaseLifecycle.Proofs.Store.Keeping

/-!
Whole runs against a record map: what they leave alone, what they clear, and what their replies say
about the map.
-/

namespace DatabaseLifecycle

namespace RecordMap

variable {start before after last : RecordMap} {exchanges earlier later : Exchanges} {kind : Kind}
  {key : RecordKey}

/-- A property that neither operators nor the calls of a run disturb holds after the run. -/
theorem Serves.preserves (holds : RecordMap → Prop) (serves : Serves start exchanges last)
    (rewriting : ∀ {first second}, Agrees first second → holds first → holds second)
    (step : ∀ exchange ∈ exchanges, ∀ {first second},
      first.Answers exchange.call exchange.reply second → holds first → holds second)
    (initially : holds start) : holds last := by
  -- Before each call an operator may rewrite statuses; then the call itself is answered.
  induction serves with
  | done map => exact initially
  | @answered start before after last exchange rest rewritten answers served preserved =>
    refine preserved (fun other listed => step other (List.mem_cons_of_mem _ listed)) ?_
    exact step exchange List.mem_cons_self answers (rewriting rewritten initially)

/-- Runs in a row are served in a row. -/
theorem serves_append :
    Serves start (earlier ++ later) last ↔
      ∃ middle, Serves start earlier middle ∧ Serves middle later last := by
  -- The map in the middle is the one that the earlier exchanges leave.
  induction earlier generalizing start with
  | nil =>
    constructor
    · intro serves
      exact ⟨start, .done start, serves⟩
    · rintro ⟨middle, ⟨⟩, serves⟩
      exact serves
  | cons exchange rest split =>
    rw [List.cons_append]
    constructor
    · rintro (_ | ⟨rewritten, answers, served⟩)
      obtain ⟨middle, first, second⟩ := split.mp served
      exact ⟨middle, .answered rewritten answers first, second⟩
    · rintro ⟨middle, _ | ⟨rewritten, answers, served⟩, second⟩
      exact .answered rewritten answers (split.mpr ⟨middle, served, second⟩)

/-- Each exchange of a run is answered by the map that the earlier ones left. -/
theorem Serves.at_exchange {exchange : Exchange Call.interface} (serves : Serves start exchanges last)
    (listed : exchange ∈ exchanges) :
    ∃ earlier later reached before after, exchanges = earlier ++ exchange :: later
      ∧ Serves start earlier reached ∧ Agrees reached before
      ∧ before.Answers exchange.call exchange.reply after ∧ Serves after later last := by
  -- The run is cut at the exchange, whose own answer comes first in what is left.
  obtain ⟨earlier, later, rfl⟩ := List.append_of_mem listed
  obtain ⟨reached, first, second⟩ := serves_append.mp serves
  cases second with
  | answered rewritten answers served =>
    exact ⟨earlier, later, reached, _, _, rfl, first, rewritten, answers, served⟩

/-- A run keeps what lies under a key that it neither submits to nor deletes. -/
theorem Serves.view_eq (serves : Serves start exchanges last)
    (untouched : ∀ exchange ∈ exchanges,
      ¬ exchange.call.Creates kind key ∧ ¬ exchange.call.Deletes kind key) :
    last.view kind key = start.view kind key := by
  refine serves.preserves (fun map => map.view kind key = start.view kind key) ?_ ?_ rfl
  · intro first second rewritten kept
    rw [rewritten kind key, kept]
  · intro exchange listed first second answers kept
    -- A call that changed the key would have submitted to it or deleted it.
    rcases view_of_answers answers kind key with same | ⟨creates, _⟩ | ⟨deletes, _⟩
    · rw [same, kept]
    · exact absurd creates (untouched exchange listed).1
    · exact absurd deletes (untouched exchange listed).2

/-- A key to which a run submits nothing stays free. -/
theorem Serves.stays_free (serves : Serves start exchanges last)
    (uncreated : ∀ exchange ∈ exchanges, ¬ exchange.call.Creates kind key)
    (free : start.view kind key = none) : last.view kind key = none := by
  refine serves.preserves (fun map => map.view kind key = none) ?_ ?_ free
  · intro first second rewritten absent
    rw [rewritten kind key, absent]
  · intro exchange listed first second answers absent
    -- A free key could only be taken by a submission; a deletion keeps it free.
    rcases view_of_answers answers kind key with same | ⟨creates, _⟩ | ⟨_, cleared⟩
    · rw [same, absent]
    · exact absurd creates (uncreated exchange listed)
    · exact cleared

/-- What lies under a key that a run does not delete stays there. -/
theorem Serves.view_of_taken {shown : kind.Record} (serves : Serves start exchanges last)
    (undeleted : ∀ exchange ∈ exchanges, ¬ exchange.call.Deletes kind key)
    (taken : start.view kind key = some shown) : last.view kind key = some shown := by
  refine serves.preserves (fun map => map.view kind key = some shown) ?_ ?_ taken
  · intro first second rewritten present
    rw [rewritten kind key, present]
  · intro exchange listed first second answers present
    -- A submission to a taken key is refused, so only a deletion could have changed it.
    rcases view_of_answers answers kind key with same | ⟨_, free⟩ | ⟨deletes, _⟩
    · rw [same, present]
    · rw [present] at free
      cases free
    · exact absurd deletes (undeleted exchange listed)

/-- A key that a run does not delete stays taken. -/
theorem Serves.stays_taken (serves : Serves start exchanges last)
    (undeleted : ∀ exchange ∈ exchanges, ¬ exchange.call.Deletes kind key)
    (taken : start.view kind key ≠ none) : last.view kind key ≠ none := by
  obtain ⟨shown, present⟩ := Option.ne_none_iff_exists'.mp taken
  rw [serves.view_of_taken undeleted present]
  exact Option.some_ne_none shown

/-- A run leaves every record under its own key. -/
theorem Serves.wellKeyed (serves : Serves start exchanges last) (keyed : start.WellKeyed) :
    last.WellKeyed := by
  refine serves.preserves WellKeyed ?_ ?_ keyed
  · intro first second rewritten keyed
    exact keyed.of_agrees rewritten
  · intro exchange _ first second answers keyed
    exact keyed.of_answers answers

/-- A key that a run deletes and submits nothing to is free after the run. -/
theorem Serves.free_of_deleted {exchange : Exchange Call.interface}
    (serves : Serves start exchanges last)
    (uncreated : ∀ exchange ∈ exchanges, ¬ exchange.call.Creates kind key)
    (listed : exchange ∈ exchanges) (deletes : exchange.call.Deletes kind key) :
    last.view kind key = none := by
  -- The deletion clears the key, and nothing after it submits to the key again.
  obtain ⟨earlier, later, reached, before, after, rfl, _, _, answers, served⟩ :=
    serves.at_exchange listed
  refine served.stays_free (fun other among => uncreated other ?_) (view_of_deletes answers deletes)
  exact List.mem_append_right _ (List.mem_cons_of_mem _ among)

/-- A submission is accepted only if its key was free before the run, unless the run cleared it. -/
theorem Serves.free_of_created {record accepted : kind.Record} (serves : Serves start exchanges last)
    (undeleted : ∀ exchange ∈ exchanges,
      ¬ exchange.call.Deletes kind (.ofMetadata (kind.metadata record)))
    (listed : ⟨.create kind record, .ok accepted⟩ ∈ exchanges) :
    start.view kind (.ofMetadata (kind.metadata record)) = none := by
  -- A record that had been there would still have been there when the submission came.
  obtain ⟨earlier, later, reached, before, after, rfl, served, rewritten, ⟨free, _⟩, _⟩ :=
    serves.at_exchange listed
  by_cases absent : start.view kind (.ofMetadata (kind.metadata record)) = none
  · exact absent
  · have taken := served.stays_taken
      (fun other among => undeleted other (List.mem_append_left _ among)) absent
    rw [← view_eq_none, rewritten] at free
    exact absurd free taken

/-- A record whose submission is accepted lies under its key after the run, unless the run clears it. -/
theorem Serves.view_of_created {record accepted : kind.Record} (serves : Serves start exchanges last)
    (undeleted : ∀ exchange ∈ exchanges,
      ¬ exchange.call.Deletes kind (.ofMetadata (kind.metadata record)))
    (listed : ⟨.create kind record, .ok accepted⟩ ∈ exchanges) :
    last.view kind (.ofMetadata (kind.metadata record)) = some (kind.withoutStatus record) := by
  obtain ⟨earlier, later, reached, before, after, rfl, _, _, ⟨_, rfl⟩, served⟩ :=
    serves.at_exchange listed
  refine served.view_of_taken (fun other among => undeleted other ?_) ?_
  · exact List.mem_append_right _ (List.mem_cons_of_mem _ among)
  · -- The submission itself has put the record there.
    rw [view, get?_insert, if_pos rfl, Option.map_some]

/-- A record that was fetched lay under its own key, where it was asked for. -/
theorem Serves.key_of_fetched {namespaceName name : String} {record : kind.Record}
    (serves : Serves start exchanges last) (keyed : start.WellKeyed)
    (listed : ⟨.fetch kind namespaceName name, .ok record⟩ ∈ exchanges) :
    RecordKey.ofMetadata (kind.metadata record) = .of namespaceName name := by
  -- The map at the time of the fetch was well keyed, as the first one was.
  obtain ⟨earlier, later, reached, before, after, rfl, served, rewritten, ⟨found, _⟩, _⟩ :=
    serves.at_exchange listed
  exact (served.wellKeyed keyed).of_agrees rewritten _ _ _ (found record rfl)

/-- A record that was fetched lies under the key that it was asked for after the run, its status
apart, unless the run deletes it. -/
theorem Serves.view_of_fetched {namespaceName name : String} {record : kind.Record}
    (serves : Serves start exchanges last)
    (undeleted : ∀ exchange ∈ exchanges,
      ¬ exchange.call.Deletes kind (.of namespaceName name))
    (listed : ⟨.fetch kind namespaceName name, .ok record⟩ ∈ exchanges) :
    last.view kind (.of namespaceName name) = some (kind.withoutStatus record) := by
  -- The record was there at the fetch, and nothing after it deletes the key.
  obtain ⟨earlier, later, reached, before, after, rfl, _, _, ⟨found, rfl⟩, served⟩ :=
    serves.at_exchange listed
  refine served.view_of_taken (fun other among => undeleted other ?_) ?_
  · exact List.mem_append_right _ (List.mem_cons_of_mem _ among)
  · rw [view, found record rfl, Option.map_some]

/-- A deletion succeeds. -/
theorem Serves.reply_of_delete {namespaceName name : String} {reply : Except Error Unit}
    (serves : Serves start exchanges last)
    (listed : ⟨.delete kind namespaceName name, reply⟩ ∈ exchanges) : reply = .ok () := by
  obtain ⟨_, _, _, _, _, _, _, _, ⟨succeeded, _⟩, _⟩ := serves.at_exchange listed
  exact succeeded

/-- Nothing is fetched from a key that is free and stays so. -/
theorem Serves.reply_of_fetch {namespaceName name : String} (serves : Serves start exchanges last)
    (uncreated : ∀ exchange ∈ exchanges, ¬ exchange.call.Creates kind (.of namespaceName name))
    (free : start.view kind (.of namespaceName name) = none) (record : kind.Record) :
    ⟨.fetch kind namespaceName name, .ok record⟩ ∉ exchanges := by
  -- The key is still free when the fetch comes, so it finds nothing.
  intro listed
  obtain ⟨earlier, later, reached, before, after, rfl, served, rewritten, ⟨found, _⟩, _⟩ :=
    serves.at_exchange listed
  have absent := served.stays_free
    (fun other among => uncreated other (List.mem_append_left _ among)) free
  rw [← rewritten kind, view_eq_none, found record rfl] at absent
  cases absent

/-- A cluster that keeps its records in a map serves every program from that map. -/
theorem serves_transcript {σ α : Type} {handle : Program.Handler Call.interface σ}
    {records : σ → RecordMap} (kept : KeptBy handle records) (program : Workflow α) (state : σ) :
    Serves (records state) (program.transcript handle state)
      (records (program.run handle state).2) := by
  -- Each call is served from the records of the state that the calls before it left.
  induction program generalizing state with
  | done value => exact .done _
  | ask asked next served =>
    obtain ⟨before, rewritten, answers⟩ := kept asked state
    exact .answered rewritten answers (served _ _)

end RecordMap

end DatabaseLifecycle

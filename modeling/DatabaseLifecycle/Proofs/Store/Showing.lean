import DatabaseLifecycle.Proofs.Store.Serving

/-!
Clusters that show what they keep: a fetch of a record that lies in the map does not fail, so what was
submitted can be read back.
-/

namespace DatabaseLifecycle

namespace RecordMap

variable {σ α : Type} {handle : Program.Handler Call.interface σ} {records : σ → RecordMap}

/-- A fetch gives what lies under its key. -/
def Finds (before : RecordMap) : (call : Call) → call.Reply → Prop
  | .fetch kind namespaceName name, reply =>
    ∀ record, before.get? kind (.of namespaceName name) = some record → reply = .ok record
  | .create _ _, _ | .delete _ _ _, _ | .connect _, _ | .lookup _, _ | .sleep _, _ | .log _, _ => True

/-- A cluster keeps its records in a map and shows what lies there. -/
def ShownBy (handle : Program.Handler Call.interface σ) (records : σ → RecordMap) : Prop :=
  ∀ call state, ∃ before, Agrees (records state) before
    ∧ before.Answers call (handle call state).1 (records (handle call state).2)
    ∧ before.Finds call (handle call state).1

/-- A cluster that shows its records keeps them. -/
theorem ShownBy.keptBy (shown : ShownBy handle records) : KeptBy handle records := by
  intro call state
  obtain ⟨before, rewritten, answers, _⟩ := shown call state
  exact ⟨before, rewritten, answers⟩

/-- What lies under a key when a program starts is what the program fetches from there, its status
apart, as long as it does not delete it. -/
theorem ShownBy.reply_of_fetch (shown : ShownBy handle records) (program : Workflow α) (state : σ)
    {kind : Kind} {namespaceName name : String} {record : kind.Record}
    (undeleted : ∀ exchange ∈ program.transcript handle state,
      ¬ exchange.call.Deletes kind (.of namespaceName name))
    (taken : (records state).view kind (.of namespaceName name) = some record)
    {reply : Except Error kind.Record}
    (listed : ⟨.fetch kind namespaceName name, reply⟩ ∈ program.transcript handle state) :
    ∃ fetched, reply = .ok fetched ∧ kind.withoutStatus fetched = record := by
  -- Each call before the fetch leaves the record where it lies.
  induction program generalizing state with
  | done value => cases listed
  | ask asked next later =>
    obtain ⟨before, rewritten, answers, finds⟩ := shown asked state
    have there : before.view kind (.of namespaceName name) = some record := by
      rw [rewritten kind, taken]
    rcases List.mem_cons.mp listed with here | listed
    · -- The fetch is the first call, so it is answered from the map that the program starts with.
      cases here
      obtain ⟨fetched, present, same⟩ := Option.map_eq_some_iff.mp there
      exact ⟨fetched, finds fetched present, same⟩
    · have first := undeleted _ List.mem_cons_self
      refine later _ _ (fun other among => undeleted other (List.mem_cons_of_mem _ among)) ?_ listed
      rcases view_of_answers answers kind (.of namespaceName name) with
        same | ⟨_, free⟩ | ⟨deletes, _⟩
      · rw [same, there]
      · rw [there] at free
        cases free
      · exact absurd deletes first

end RecordMap

/-- A rehearsal without cues shows the records that it keeps. -/
theorem Rehearsal.shownBy_plain : RecordMap.ShownBy plain id := by
  intro call records
  -- The records stay as they are, and what is fetched is what lies there.
  refine ⟨records, fun _ _ => rfl, answers_plain call records, ?_⟩
  cases call with
  | fetch kind namespaceName name =>
    intro record present
    simp [plain, answer, heard, fetch, nextStoreCue, Cues.next, present]
  | create _ _ | delete _ _ _ | connect _ | lookup _ | sleep _ | log _ => trivial

end DatabaseLifecycle

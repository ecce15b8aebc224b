import DatabaseLifecycle.Report

/-!
Reports as records of what was noted in them. Every note leaves its entry, in order and whatever was
noted before, and the first failure that fails the whole run leaves its error for good.
-/

namespace DatabaseLifecycle

/-- What a workflow can note in a report. -/
inductive Note where
  /-- A step succeeded. -/
  | completed (step : Step)
  /-- A step had nothing to do. -/
  | skipped (step : Step)
  /-- A step failed and the run goes on. -/
  | failed (step : Step) (message : String)
  /-- A step failed, and the whole run with it. -/
  | failedHard (step : Step) (error : Error)
  deriving DecidableEq, Repr

namespace Note

/-- The step of a note. -/
def step : Note → Step
  | completed step | skipped step | failed step _ | failedHard step _ => step

/-- What a note says became of its step. -/
def outcome : Note → Outcome
  | completed _ => .completed
  | skipped _ => .skipped
  | failed _ message => .failed message
  | failedHard _ error => .failed error.message

/-- The entry that a note leaves. -/
def entry (note : Note) : Step × Outcome := (note.step, note.outcome)

/-- Whether a note says that its step failed. -/
def isFailure : Note → Bool
  | failed _ _ | failedHard _ _ => true
  | completed _ | skipped _ => false

/-- The error that a note fails the whole run with. -/
def error? : Note → Option Error
  | failedHard _ error => some error
  | _ => none

/-- The outcome of a note is a failure when the note is one. -/
theorem isFailed_outcome (note : Note) : note.outcome.isFailed = note.isFailure := by
  cases note <;> rfl

/-- The notes with an error are those of failures that fail the whole run. -/
theorem error?_eq_some_iff {note : Note} {error : Error} :
    note.error? = some error ↔ ∃ step, note = .failedHard step error := by
  cases note <;> simp [error?]

end Note

namespace Report

/-- The report with one more note. -/
def noted (report : Report) : Note → Report
  | .completed step => report.completed step
  | .skipped step => report.skipped step
  | .failed step message => report.failed step message
  | .failedHard step error => report.failedHard step error

/-- The report that begins empty and takes notes in turn. -/
def ofNotes (notes : List Note) : Report := notes.foldl noted {}

/-- A note leaves one entry behind the others. -/
theorem steps_noted (report : Report) (note : Note) :
    (report.noted note).steps = report.steps ++ [note.entry] := by
  cases note <;> rfl

/-- A note leaves the error that is there, and otherwise its own. -/
theorem error_noted (report : Report) (note : Note) :
    (report.noted note).error = report.error.or note.error? := by
  cases note with
  | failedHard step error =>
    cases kept : report.error <;> simp [noted, failedHard, Note.error?, kept]
  | _ => exact (Option.or_none).symm

/-- Notes in turn leave their entries in turn. -/
theorem steps_foldl (notes : List Note) (report : Report) :
    (notes.foldl noted report).steps = report.steps ++ notes.map Note.entry := by
  induction notes generalizing report with
  | nil => simp
  | cons note rest step =>
    rw [List.foldl_cons, step, steps_noted, List.map_cons, List.append_assoc, List.singleton_append]

/-- Notes in turn leave the error that is there, and otherwise the first of theirs. -/
theorem error_foldl (notes : List Note) (report : Report) :
    (notes.foldl noted report).error = report.error.or (notes.findSome? Note.error?) := by
  induction notes generalizing report with
  | nil => simp
  | cons note rest step =>
    rw [List.foldl_cons, step, error_noted, Option.or_assoc, List.findSome?_cons]
    cases note.error? <;> rfl

/-- The entries of a report are those of its notes. -/
theorem steps_ofNotes (notes : List Note) : (ofNotes notes).steps = notes.map Note.entry :=
  steps_foldl notes {}

/-- The error of a report is the first of its notes' errors. -/
theorem error_ofNotes (notes : List Note) :
    (ofNotes notes).error = notes.findSome? Note.error? := by
  rw [ofNotes, error_foldl, Option.none_or]

/-- The failures of a report are the entries of the failures that were noted. -/
theorem failures_ofNotes (notes : List Note) :
    (ofNotes notes).failures = (notes.filter Note.isFailure).map Note.entry := by
  have same : (fun entry : Step × Outcome => entry.2.isFailed) ∘ Note.entry = Note.isFailure :=
    funext Note.isFailed_outcome
  rw [failures, steps_ofNotes, List.filter_map, same]

/-- The status of a step is the outcome of the first note of it. -/
theorem status?_ofNotes (notes : List Note) (step : Step) :
    (ofNotes notes).status? step = (notes.find? fun note => note.step == step).map Note.outcome := by
  rw [status?, steps_ofNotes]
  induction notes with
  | nil => rfl
  | cons note rest found =>
    by_cases here : note.step = step
    · simp [Note.entry, here]
    · -- The entry is passed over like the note.
      have other : (step == note.step) = false := beq_eq_false_iff_ne.mpr (Ne.symm here)
      simp [Note.entry, List.lookup_cons, other, here, ← found]

/-- A report is clean when no failure was noted. -/
theorem isClean_ofNotes (notes : List Note) :
    (ofNotes notes).isClean = true ↔ ∀ note ∈ notes, note.isFailure = false := by
  rw [isClean, failures_ofNotes, List.isEmpty_map, List.isEmpty_iff, List.filter_eq_nil_iff]
  simp

/-- A report fails with its error. -/
theorem result_eq_error_iff {report : Report} {error : Error} :
    report.result = .error error ↔ report.error = some error := by
  unfold result
  cases report.error <;> simp

/-- A report without an error is handed on. -/
theorem result_eq_ok {report : Report} (unfailed : report.error = none) :
    report.result = .ok report := by
  rw [result, unfailed]

/-- The first note that fails the whole run gives the error, whatever is noted after it. -/
theorem error_of_first {before after : List Note} {step : Step} {error : Error}
    (unfailed : ∀ note ∈ before, note.error? = none) :
    (ofNotes (before ++ .failedHard step error :: after)).error = some error := by
  rw [error_ofNotes, List.findSome?_append, List.findSome?_eq_none_iff.mpr unfailed, Option.none_or]
  rfl

/-- An error stays, whatever else is noted. -/
theorem error_append {notes : List Note} {error : Error}
    (failed : (ofNotes notes).error = some error) (later : List Note) :
    (ofNotes (notes ++ later)).error = some error := by
  rw [error_ofNotes] at failed ⊢
  rw [List.findSome?_append, failed, Option.some_or]

/-- There is no error when no note fails the whole run. -/
theorem error_eq_none_iff {notes : List Note} :
    (ofNotes notes).error = none ↔ ∀ step error, Note.failedHard step error ∉ notes := by
  rw [error_ofNotes, List.findSome?_eq_none_iff]
  constructor
  · intro unfailed step error listed
    cases unfailed _ listed
  · intro absent note listed
    cases note with
    | failedHard step error => exact absurd listed (absent step error)
    | _ => rfl

/-- A report tells what was noted in it: an entry for each note in turn, the status of a step by the first
note of it, and the failures in turn. The first failure that fails the whole run gives the error, which
no later note replaces, and the report is handed on when there was none. A report without failures is
clean, and no error is behind a clean one. -/
theorem notes_are_kept (notes : List Note) :
    let report := ofNotes notes
    report.steps = notes.map Note.entry
      ∧ (∀ step, report.status? step
        = (notes.find? fun note => note.step == step).map Note.outcome)
      ∧ report.failures = (notes.filter Note.isFailure).map Note.entry
      ∧ (∀ before step error after, notes = before ++ .failedHard step error :: after →
        (∀ note ∈ before, note.error? = none) →
          report.error = some error
            ∧ report.steps[before.length]? = some (step, .failed error.message))
      ∧ (∀ error, report.error = some error →
        ∀ later, (ofNotes (notes ++ later)).error = some error)
      ∧ (∀ error, report.result = .error error ↔ report.error = some error)
      ∧ ((∃ error, report.result = .error error)
        ↔ ∃ step error, Note.failedHard step error ∈ notes)
      ∧ ((∀ step error, Note.failedHard step error ∉ notes) → report.result = .ok report)
      ∧ (report.isClean = true ↔ ∀ note ∈ notes, note.isFailure = false)
      ∧ (report.isClean = true → report.error = none) := by
  intro report
  refine ⟨steps_ofNotes notes, status?_ofNotes notes, failures_ofNotes notes, ?_,
    fun error failed later => error_append failed later, fun error => result_eq_error_iff, ?_,
    fun absent => result_eq_ok (error_eq_none_iff.mpr absent), isClean_ofNotes notes, ?_⟩
  · -- The first failure of the whole run.
    intro before step error after split unfailed
    subst split
    refine ⟨error_of_first unfailed, ?_⟩
    rw [show report.steps = _ from steps_ofNotes _, List.map_append, List.map_cons,
      List.getElem?_append_right (by simp), List.length_map, Nat.sub_self]
    rfl
  · -- Whether there is one.
    constructor
    · intro ⟨error, failed⟩
      rw [result_eq_error_iff, error_ofNotes] at failed
      obtain ⟨note, listed, held⟩ := List.exists_of_findSome?_eq_some failed
      obtain ⟨step, rfl⟩ := Note.error?_eq_some_iff.mp held
      exact ⟨step, error, listed⟩
    · intro ⟨step, error, listed⟩
      cases kept : report.error with
      | none => exact absurd listed (error_eq_none_iff.mp kept step error)
      | some first => exact ⟨first, result_eq_error_iff.mpr kept⟩
  · -- A note that fails the whole run is a failure.
    intro clean
    rw [error_eq_none_iff]
    intro step error listed
    cases (isClean_ofNotes notes).mp clean _ listed

/-- The database that was not ready fails the run, although the workload was not running either. -/
theorem notes_are_kept_not_ready :
    let database := Error.notReady "Database" "orders" "CREATING"
    let workload := Error.notReady "Pod" "app" "Pending"
    let report := ofNotes [.failed .serverSecret "already exists",
      .failedHard .databaseReady database, .failedHard .workloadRunning workload]
    report.error = some database
      ∧ report.steps[1]? = some (.databaseReady, .failed database.message) :=
  (notes_are_kept _).2.2.2.1 [.failed .serverSecret "already exists"] _ _ _ rfl (by decide)

end Report

end DatabaseLifecycle

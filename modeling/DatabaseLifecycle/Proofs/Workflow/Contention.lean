import DatabaseLifecycle.Proofs.Store.Sharing
import DatabaseLifecycle.Proofs.Workflow.Placement

/-!
Contention: runs of provisioning that share a store may be after the same keys. Whatever the order of
their calls, each key goes to one of them at most, and the others report that they did not get it.
-/

namespace DatabaseLifecycle

/-- The exchange of a step that submits a record, if there is one. -/
def ProvisionReplies.submission? (prepared : Bundle) (replies : ProvisionReplies) (step : Step) :
    Option (Exchange Call.interface) :=
  (prepared.record? step).map fun record => ⟨.create step.kind record, replies.submissions step⟩

/-- The exchanges of two steps, if there are any, are not both accepted submissions to one key. -/
def ApartSteps (own : Step → Option (Exchange Call.interface)) (first second : Step) : Prop :=
  ∀ one, own first = some one → ∀ other, own second = some other → one.Apart other

/-- It does not matter which step comes first. -/
theorem ApartSteps.symm {own : Step → Option (Exchange Call.interface)} {first second : Step}
    (apart : ApartSteps own first second) : ApartSteps own second first :=
  fun one mine other others => (apart other others one mine).symm

/-- What one run of provisioning is given. -/
structure Provisioning where
  /-- The environment. -/
  environment : Environment
  /-- The budgets of its waits. -/
  timings : Timings
  /-- The bundle. -/
  bundle : Bundle

namespace Provisioning

/-- The run itself. -/
def workflow (given : Provisioning) : Workflow (Except Error Report × Bundle) :=
  Workflow.provision given.environment given.timings given.bundle

/-- A submission that is due in a run: a record of the prepared bundle. -/
structure Submission (given : Provisioning) where
  /-- The prepared bundle. -/
  prepared : Bundle
  /-- It is what preparation makes of the given one. -/
  ready : given.bundle.prepare given.environment = (.ok (), prepared)
  /-- The step that submits the record. -/
  step : Step
  /-- It is a step that submits something. -/
  listed : step ∈ Step.submissions
  /-- The record. -/
  record : step.kind.Record
  /-- The prepared bundle has it for this step. -/
  found : prepared.record? step = some record

namespace Submission

variable {given : Provisioning} (submission : given.Submission)

/-- The key that the record is submitted to. -/
def key : RecordKey := .ofMetadata (submission.step.kind.metadata submission.record)

/-- Whether the record is submitted to this key. -/
def IsTo (kind : Kind) (key : RecordKey) : Prop := submission.step.kind = kind ∧ submission.key = key

/-- The exchange that the submission leads to. -/
def exchange (replies : ProvisionReplies) : Exchange Call.interface :=
  ⟨.create submission.step.kind submission.record, replies.submissions submission.step⟩

variable {submission} {prepared : Bundle} {replies : ProvisionReplies} {kind : Kind} {key : RecordKey}

/-- What is stored for a submission takes the key that it is to. -/
theorem IsTo.takes {exchange : Exchange Call.interface} (here : submission.IsTo kind key)
    (stores : exchange.Stores submission.step.kind submission.key submission.record) :
    exchange.Takes kind key := by
  obtain ⟨rfl, rfl⟩ := here
  exact ⟨submission.record, stores⟩

/-- A bundle can be prepared in one way only. -/
theorem record?_prepared (submission : given.Submission)
    (ready : given.bundle.prepare given.environment = (.ok (), prepared)) :
    prepared.record? submission.step = some submission.record := by
  obtain rfl : submission.prepared = prepared :=
    (Prod.mk.inj (submission.ready.symm.trans ready)).2
  exact submission.found

/-- The exchange of a submission is that of its step. -/
theorem submission?_eq (submission : given.Submission)
    (ready : given.bundle.prepare given.environment = (.ok (), prepared)) :
    replies.submission? prepared submission.step = some (submission.exchange replies) :=
  congrArg _ (submission.record?_prepared ready)

/-- A step that submits a record has the outcome of its submission. -/
theorem status?_report (submission : given.Submission)
    (ready : given.bundle.prepare given.environment = (.ok (), prepared)) :
    (replies.report given.timings prepared).status? submission.step
      = some (.ofResult (replies.submissions submission.step)) := by
  have present : prepared.record? submission.step ≠ none := by
    rw [submission.record?_prepared ready]
    exact Option.some_ne_none _
  rw [replies.status?_report given.timings _ (List.mem_append_left _ submission.listed),
    replies.outcome_submission given.timings _ submission.listed present]

/-- A submission that is reported completed was accepted. -/
theorem stores_of_completed (submission : given.Submission)
    (ready : given.bundle.prepare given.environment = (.ok (), prepared))
    (completed : (replies.report given.timings prepared).status? submission.step
      = some .completed) :
    (submission.exchange replies).Stores submission.step.kind submission.key
      submission.record := by
  -- The outcome in the report is that of the reply.
  rw [submission.status?_report ready, Option.some_inj, Outcome.ofResult_eq_completed]
    at completed
  obtain ⟨accepted, replied⟩ := completed
  exact ⟨⟨accepted, by rw [exchange, replied]⟩, rfl⟩

end Submission

variable {given : Provisioning}

/-- Provisioning deletes nothing, however its calls are answered. -/
theorem makesOnly_workflow (given : Provisioning) :
    given.workflow.MakesOnly fun call : Call => ∀ kind key, ¬ call.Deletes kind key := by
  refine Program.makesOnly_of_runs Call.nonempty_reply ?_
  intro exchanges ended runs exchange listed kind key
  -- Apart from submissions and fetches there is at most the line of a failure.
  cases Workflow.runs_provision runs with
  | refused empty =>
    obtain rfl := List.mem_singleton.mp listed
    exact id
  | unprepared failed =>
    obtain rfl := List.mem_singleton.mp listed
    exact id
  | submitted present ready fits => exact ProvisionReplies.not_deletes listed kind key

variable {ι σ : Type} [DecidableEq ι]

/-- Runs of provisioning that share a store, after the turns of a schedule. -/
def together (given : ι → Provisioning) (store : SharedStore σ) (state : σ)
    (schedule : List (Turn ι StatusUpdate)) :
    Pool Call.interface ι σ (Except Error Report × Bundle) :=
  store.play (Pool.start state fun index => (given index).workflow) schedule

/-- A schedule goes on where another one stops. -/
theorem together_append (given : ι → Provisioning) (store : SharedStore σ) (state : σ)
    (earlier later : List (Turn ι StatusUpdate)) :
    together given store state (earlier ++ later)
      = store.play (together given store state earlier) later := Pool.play_append earlier later

/-- A run has ended with a report. -/
def Reports (pool : Pool Call.interface ι σ (Except Error Report × Bundle)) (index : ι)
    (report : Report) : Prop :=
  ∃ left, pool.programs index = .done (.ok report, left)

/-- A run with a report has gone through all its submissions and both its waits, whatever became of
each. -/
def GoesThrough (given : Provisioning) (exchanges : Exchanges) (report : Report) : Prop :=
  ∃ (prepared : Bundle) (replies : ProvisionReplies),
    given.bundle.prepare given.environment = (.ok (), prepared)
      ∧ replies.Fits given.timings prepared
      ∧ exchanges = replies.exchanges given.timings prepared
      ∧ report = replies.report given.timings prepared

/-- A submission got its key: the key was free from the start until a turn of the run, and since then the
prepared record lies there, but for what the operator has made of it. -/
def Gets (given : ι → Provisioning) (store : SharedStore σ) (state : σ)
    (schedule : List (Turn ι StatusUpdate)) (index : ι) (submission : (given index).Submission) :
    Prop :=
  (store.records state).get? submission.step.kind submission.key = none
    ∧ ∃ earlier later, schedule = earlier ++ .run index :: later
      ∧ store.at? (together given store state earlier) submission.step.kind submission.key = none
      ∧ store.at? (together given store state schedule) submission.step.kind submission.key
        = some (StatusUpdate.overall _ submission.key later submission.record)

/-- What runs of provisioning that share a store make of it, and what they report. -/
structure Contended (given : ι → Provisioning) (store : SharedStore σ) (state : σ)
    (schedule : List (Turn ι StatusUpdate)) : Prop where
  /-- What lies in the store at any time stays there, but for what the operator makes of it. -/
  keeps : ∀ earlier later, schedule = earlier ++ later → ∀ kind key record,
    store.at? (together given store state earlier) kind key = some record →
      store.at? (together given store state schedule) kind key
        = some (StatusUpdate.overall kind key later record)
  /-- A submission that is reported completed got its key. -/
  completed : ∀ index report, Reports (together given store state schedule) index report →
    ∀ submission : (given index).Submission,
      report.status? submission.step = some .completed →
      Gets given store state schedule index submission
  /-- Where one submission to a key is reported completed, every other one is reported failed. -/
  others : ∀ first second firstReport secondReport,
    Reports (together given store state schedule) first firstReport →
    Reports (together given store state schedule) second secondReport →
    ∀ (one : (given first).Submission) (other : (given second).Submission) (kind : Kind)
      (key : RecordKey), one.IsTo kind key → other.IsTo kind key →
      firstReport.status? one.step = some .completed →
      first = second ∧ one.step = other.step
        ∨ ∃ message, secondReport.status? other.step = some (.failed message)
  /-- Every submission to a key that was taken at the start is reported failed. -/
  refused : ∀ index report, Reports (together given store state schedule) index report →
    ∀ submission : (given index).Submission,
      (store.records state).get? submission.step.kind submission.key ≠ none →
      ∃ message, report.status? submission.step = some (.failed message)
  /-- Under a key that was free at the start lies nothing but the record of a submission that got it, and
  the run that made it reports it completed. -/
  source : ∀ kind key, (store.records state).get? kind key = none →
    store.at? (together given store state schedule) kind key ≠ none →
    ∃ (index : ι) (submission : (given index).Submission), submission.IsTo kind key
      ∧ Gets given store state schedule index submission
      ∧ ∀ report, Reports (together given store state schedule) index report →
        report.status? submission.step = some .completed
  /-- Every run with a report has gone through all its submissions and its waits. -/
  goesThrough : ∀ index report, Reports (together given store state schedule) index report →
    GoesThrough (given index) ((together given store state schedule).exchanges index) report
  /-- Every run comes to its end when it gets enough further turns. -/
  ends : ∀ index, ∃ count ended,
    (together given store state (schedule ++ List.replicate count (.run index))).programs index
      = .done ended

section Runs

variable {given : ι → Provisioning} {store : SharedStore σ} {state : σ}
  {schedule : List (Turn ι StatusUpdate)} {index : ι} {report : Report} {kind : Kind}
  {key : RecordKey}

/-- What a run has exchanged so far, with any run of what it has still to do, is a run of provisioning. -/
theorem provisioned_together {later : Exchanges} {ended : Except Error Report × Bundle}
    (rest : ((together given store state schedule).programs index).Runs later ended) :
    Provisioned (given index).environment (given index).timings (given index).bundle
      ((together given store state schedule).exchanges index ++ later) ended :=
  Workflow.runs_provision (Pool.runs_append_of_play store.handle store.change state
    (fun index => (given index).workflow) schedule index rest)

/-- A run with a report was neither refused nor unprepared. -/
theorem goesThrough_of_reports
    (reports : Reports (together given store state schedule) index report) :
    GoesThrough (given index) ((together given store state schedule).exchanges index) report := by
  obtain ⟨left, ended⟩ := reports
  -- The run has nothing left to do.
  have rest : ((together given store state schedule).programs index).Runs [] (.ok report, left) := by
    rw [ended]
    exact .done _
  have runs := provisioned_together rest
  rw [List.append_nil] at runs
  generalize (together given store state schedule).exchanges index = exchanges at runs ⊢
  cases runs with
  | @submitted prepared replies present ready fits =>
    exact ⟨prepared, replies, ready, fits, rfl, rfl⟩

/-- A submission that is reported completed is one of those that were accepted. -/
theorem logged_of_completed (reports : Reports (together given store state schedule) index report)
    (submission : (given index).Submission)
    (completed : report.status? submission.step = some .completed) :
    ∃ exchange, (index, exchange) ∈ (together given store state schedule).log
      ∧ exchange.Stores submission.step.kind submission.key submission.record := by
  obtain ⟨prepared, replies, ready, _, exchanged, rfl⟩ := goesThrough_of_reports reports
  refine ⟨submission.exchange replies, ?_, submission.stores_of_completed ready completed⟩
  -- The submission is among the first exchanges of its run.
  rw [← Pool.mem_exchanges, exchanged]
  refine Exchanges.mem_of_mem_ofStore ?_
  rw [ProvisionReplies.ofStore_exchanges]
  refine List.mem_append_left _ (List.mem_append_left _ (List.mem_filterMap.mpr ?_))
  exact ⟨submission.step, submission.listed, submission.submission?_eq ready⟩

/-- Whatever a run stores is the record of a submission, which is reported completed in the end. -/
theorem submission_of_takes {exchange : Exchange Call.interface}
    (listed : (index, exchange) ∈ (together given store state schedule).log)
    (takes : exchange.Takes kind key) :
    ∃ submission : (given index).Submission, submission.IsTo kind key
      ∧ exchange.Stores submission.step.kind submission.key submission.record
      ∧ ∀ report, Reports (together given store state schedule) index report →
        report.status? submission.step = some .completed := by
  obtain ⟨record, ⟨accepted, rfl⟩, own⟩ := takes
  -- The exchanges so far belong to a whole run, be it one that has already ended or not.
  obtain ⟨later, ended, rest⟩ := Program.exists_runs Call.nonempty_reply
    ((together given store state schedule).programs index)
  have runs := provisioned_together rest
  have among := List.mem_append_left later (Pool.mem_exchanges.mpr listed)
  generalize (together given store state schedule).exchanges index ++ later = exchanges
    at runs among
  cases runs with
  | refused empty =>
    cases List.mem_singleton.mp among
  | unprepared failed =>
    cases List.mem_singleton.mp among
  | @submitted prepared replies present ready fits =>
    rcases replies.store_calls among rfl with ⟨step, submits, submitted, found, same⟩ | ⟨_, _, _, fetches⟩
    · generalize replied : replies.submissions step = reply at same
      cases same
      let submission : (given index).Submission := ⟨prepared, ready, step, submits, submitted, found⟩
      refine ⟨submission, ⟨rfl, own⟩, ⟨⟨accepted, rfl⟩, rfl⟩, fun report reports => ?_⟩
      -- A run that has ended has nothing left to do, so its report is that of the whole run.
      obtain ⟨left, done⟩ := reports
      rw [done] at rest
      cases rest
      rw [submission.status?_report ready, replied]
      rfl
    · cases fetches

/-- A submission is reported completed or failed. -/
theorem completed_or_failed (reports : Reports (together given store state schedule) index report)
    (submission : (given index).Submission) :
    report.status? submission.step = some .completed
      ∨ ∃ message, report.status? submission.step = some (.failed message) := by
  obtain ⟨prepared, replies, ready, _, _, rfl⟩ := goesThrough_of_reports reports
  rw [submission.status?_report ready]
  cases replies.submissions submission.step with
  | ok accepted => exact Or.inl rfl
  | error error => exact Or.inr ⟨error.message, rfl⟩

/-- Runs of provisioning only ever fill a store. -/
theorem filling_together (given : ι → Provisioning) (store : SharedStore σ) (state : σ)
    (schedule : List (Turn ι StatusUpdate)) :
    store.Filling (store.records state) (together given store state schedule) :=
  SharedStore.filling_play store state (fun index => (given index).makesOnly_workflow) schedule

/-- Of two submissions to one key at most one is reported completed in the report of one run. -/
theorem step_eq_of_completed (reports : Reports (together given store state schedule) index report)
    (first second : (given index).Submission) (here : first.IsTo kind key)
    (there : second.IsTo kind key) (one : report.status? first.step = some .completed)
    (other : report.status? second.step = some .completed) : first.step = second.step := by
  obtain ⟨prepared, replies, ready, _, exchanged, rfl⟩ := goesThrough_of_reports reports
  -- The submissions of the run are among its exchanges, none of which take a key together.
  have apart := (filling_together given store state schedule).once_own index
  rw [exchanged] at apart
  have submitted : (Exchanges.ofStore _).Pairwise Exchange.Apart := apart.filter _
  rw [ProvisionReplies.ofStore_exchanges, List.append_assoc] at submitted
  have steps : Step.submissions.Pairwise (ApartSteps (replies.submission? prepared)) :=
    List.pairwise_filterMap.mp (List.pairwise_append.mp submitted).1
  have symmetric : Std.Symm (ApartSteps (replies.submission? prepared)) := ⟨fun _ _ => ApartSteps.symm⟩
  refine Classical.byContradiction fun different => ?_
  have disjoint : ApartSteps (replies.submission? prepared) first.step second.step :=
    steps.forall first.listed second.listed different
  exact disjoint (first.exchange replies) (first.submission?_eq ready) (second.exchange replies)
    (second.submission?_eq ready) kind key ⟨here.takes (first.stores_of_completed ready one),
      there.takes (second.stores_of_completed ready other)⟩

/-- Runs of provisioning may be after the same keys: no record that lies in the store is ever replaced or
removed, each free key goes to at most one submission of all runs, with exactly the record that its run
prepared, and all other submissions to that key fail without keeping their runs from going on. -/
theorem provision_contends (given : ι → Provisioning) (store : SharedStore σ) (state : σ)
    (schedule : List (Turn ι StatusUpdate)) : Contended given store state schedule := by
  have filling := filling_together given store state schedule
  have undeleting (index : ι) := (given index).makesOnly_workflow
  constructor
  case keeps =>
    rintro earlier later rfl kind key record found
    rw [together_append]
    refine SharedStore.at?_play (fun index => ?_) found
    exact ((filling_together given store state earlier).undeleting index).mono
      fun call undeleted => undeleted kind key
  case completed =>
    intro index report reports submission completed
    obtain ⟨exchange, listed, stores⟩ := logged_of_completed reports submission completed
    exact SharedStore.Filling.of_stores undeleting listed stores
  case others =>
    intro first second firstReport secondReport reports others one other kind key here there completed
    rcases completed_or_failed others other with also | failed
    · left
      obtain ⟨exchange, listed, stores⟩ := logged_of_completed reports one completed
      obtain ⟨exchanged, among, stored⟩ := logged_of_completed others other also
      obtain rfl := filling.index_eq listed among (here.takes stores) (there.takes stored)
      -- One run has one report.
      obtain ⟨_, ended⟩ := reports
      obtain ⟨_, also_ended⟩ := others
      rw [ended] at also_ended
      cases also_ended
      exact ⟨rfl, step_eq_of_completed ⟨_, ended⟩ one other here there completed also⟩
    · exact Or.inr failed
  case refused =>
    intro index report reports submission taken
    rcases completed_or_failed reports submission with completed | failed
    · obtain ⟨exchange, listed, stores⟩ := logged_of_completed reports submission completed
      obtain ⟨free, _⟩ := SharedStore.Filling.of_stores undeleting listed stores
      exact absurd free taken
    · exact failed
  case source =>
    intro kind key free present
    rcases filling.source kind key present with taken | ⟨⟨index, exchange⟩, listed, takes⟩
    · exact absurd free taken
    · obtain ⟨submission, here, stores, completed⟩ := submission_of_takes listed takes
      exact ⟨index, submission, here, SharedStore.Filling.of_stores undeleting listed stores,
        completed⟩
  case goesThrough => exact fun index report reports => goesThrough_of_reports reports
  case ends =>
    intro index
    obtain ⟨count, ended, done⟩ := Pool.exists_done store.handle store.change
      (together given store state schedule) index
    refine ⟨count, ended, ?_⟩
    rwa [together_append]

/-- Of two runs with one workload the one that submits it first gets it. -/
example : ∃ first second,
    let given : Bool → Provisioning := fun _ =>
      ⟨{}, ⟨⟨0, 1⟩, ⟨0, 1⟩, ⟨0, 1⟩⟩, { workload := some {} }⟩
    let pool := together given SharedStore.rehearsed .empty ([.run true] ++
      List.replicate 4 (.run false) ++ List.replicate 3 (.run true))
    Reports pool true first ∧ first.status? .workload = some .completed
      ∧ Reports pool false second ∧ ∃ message, second.status? .workload = some (.failed message) :=
  ⟨_, _, ⟨_, rfl⟩, rfl, ⟨_, rfl⟩, _, rfl⟩

end Runs

end Provisioning

end DatabaseLifecycle

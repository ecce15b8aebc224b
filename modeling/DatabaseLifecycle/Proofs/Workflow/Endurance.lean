import DatabaseLifecycle.Proofs.Cluster.Server
import DatabaseLifecycle.Proofs.Cluster.Traffic
import DatabaseLifecycle.Proofs.Poll
import DatabaseLifecycle.Proofs.Workflow.Deprovision
import DatabaseLifecycle.Proofs.Workflow.Preparation
import DatabaseLifecycle.Proofs.Workflow.StatusWait

/-!
Waits over the server of a cluster: which of its answers a wait endures, and which end it before its
budget is spent.
-/

namespace DatabaseLifecycle

/-- Whether trying again is no use after a refusal: its code blames the request, and neither for an
absence nor for coming too often. -/
def Refusal.isFinal (refusal : Refusal) : Bool :=
  400 ≤ refusal.code && refusal.code ≤ 499 && refusal.code != 404 && refusal.code != 429

/-- A server that is asked for one record again and again, with pauses between. -/
structure Fetching (σ : Type) (kind : Kind) where
  /-- The server. -/
  server : Program.Handler Traffic.interface σ
  /-- Its state before the first fetch. -/
  state : σ
  /-- Where the record is kept. -/
  place : RecordKey
  /-- The milliseconds between two fetches. -/
  interval : Nat

namespace Fetching

open Cluster

variable {σ : Type} {kind : Kind} (fetching : Fetching σ kind)

/-- The answer to a request that is sent after so many others like it. -/
def answer (request : Request) (attempt : Nat) : Except ClusterFailure Http.Response :=
  fetching.server.replies (.send request) (.pass (.sleep fetching.interval)) fetching.state attempt

/-- What comes of the fetch after so many others. -/
def reading (attempt : Nat) : Except ClusterFailure kind.Record :=
  Cluster.reading kind fetching.place (fetching.answer · attempt)

/-- The reply to the fetch after so many others. -/
def reply (attempt : Nat) : Except Error kind.Record :=
  fetched kind fetching.place (fetching.answer · attempt)

/-- The exchanges with the server, and the pauses between them, when so many fetches are made. -/
def traffic (count : Nat) : List (Exchange Traffic.interface) :=
  match fetchRequest kind fetching.place.namespaceName fetching.place.name with
  | .ok request =>
    Workflow.requested request fetching.interval ((List.range count).map (fetching.answer request))
  | .error _ => List.replicate (count - 1) ⟨.pass (.sleep fetching.interval), ()⟩

/-- Fetches that are realised over the server get its replies, and they make no other exchanges. -/
theorem follows_of_realised {replies : List (Except Error kind.Record)}
    {exchanges : List (Exchange Traffic.interface)}
    (gives : fetching.server.Gives fetching.state exchanges)
    (realised : Program.Realised Workflow.overServer
      (Workflow.spaced (.fetch kind fetching.place.namespaceName fetching.place.name)
        fetching.interval replies) exchanges) :
    Follows fetching.reply replies ∧ exchanges = fetching.traffic replies.length := by
  unfold traffic
  cases posed : fetchRequest kind fetching.place.namespaceName fetching.place.name with
  | ok request =>
    obtain ⟨given, rfl, rfl⟩ := Workflow.realised_posed posed realised
    -- The answers that the requests got are those of the server.
    rw [← List.append_nil (Workflow.requested request fetching.interval given)] at gives
    have follows : Follows (fetching.answer request) given := Exchange.follows_of_gives gives
    refine ⟨?replied, ?exchanged⟩
    case replied =>
      have same : fetching.reply
          = fun attempt => replyTo kind fetching.place (fetching.answer request attempt) :=
        funext fun attempt => Workflow.fetched_of_posed posed _
      rw [same]
      exact follows.map (replyTo kind fetching.place)
    case exchanged =>
      show _ = Workflow.requested request fetching.interval
        ((List.range (given.map _).length).map (fetching.answer request))
      rw [List.length_map, ← follows.eq_map_range]
  | error failure =>
    -- Without a request every reply is the same failure, whatever the server would answer.
    obtain ⟨replied, rfl⟩ := Workflow.realised_unposed posed realised
    refine ⟨?_, rfl⟩
    intro attempt other found
    have member := List.mem_of_getElem? found
    rw [replied] at member
    rw [List.eq_of_mem_replicate member]
    exact Workflow.fetched_of_unposed posed _

/-- Each fetch is a request to be shown what lies under a path, with a pause between each two, and what
comes of it is read off the answer. -/
structure Asks (path : String) : Prop where
  /-- Nothing is exchanged but these requests and the pauses. -/
  traffic_eq : ∀ count, fetching.traffic count
    = Workflow.requested ⟨.get, path, none⟩ fetching.interval
      ((List.range count).map (fetching.answer ⟨.get, path, none⟩))
  /-- An answer that does not come is what comes of the fetch. -/
  reading_unanswered : ∀ attempt failure,
    fetching.answer ⟨.get, path, none⟩ attempt = .error failure →
      fetching.reading attempt = .error failure
  /-- Of another answer the record or the refusal in it comes. -/
  reading_answered : ∀ attempt response,
    fetching.answer ⟨.get, path, none⟩ attempt = .ok response →
      fetching.reading attempt = readRecord kind response

/-- Where namespaces and names are made for paths, a fetch asks for the path of its record. -/
theorem asks_of_named (plain : IsPathText fetching.place.namespaceName)
    (named : IsName fetching.place.name) :
    fetching.Asks (collectionPath kind fetching.place.namespaceName ++ "/" ++ fetching.place.name) := by
  have posed : fetchRequest kind fetching.place.namespaceName fetching.place.name = .ok
      ⟨.get, collectionPath kind fetching.place.namespaceName ++ "/" ++ fetching.place.name, none⟩ :=
    recordRequest_eq .get kind plain named none
  refine ⟨fun count => ?_, fun attempt failure unanswered => ?_, fun attempt response answered => ?_⟩
  · rw [traffic, posed]
  · rw [reading, Cluster.reading, posed]
    exact (congrArg (· >>= readRecord kind) unanswered).trans rfl
  · rw [reading, Cluster.reading, posed]
    exact (congrArg (· >>= readRecord kind) answered).trans rfl

end Fetching

namespace StatusWait

open Cluster

variable {σ : Type} {kind : Kind} (wait : StatusWait kind)

/-- Whether a reading ends the wait: the record has the status, or there is a final refusal. -/
def decides : Except ClusterFailure kind.Record → Bool
  | .ok record => wait.status record == wait.target
  | .error (.refused refusal) => refusal.isFinal
  | .error _ => false

/-- The fetches of the wait over a server. -/
def fetching (server : Program.Handler Traffic.interface σ) (state : σ)
    (submitted : kind.Record) : Fetching σ kind where
  server
  state
  place := ⟨wait.namespaceName submitted, (kind.metadata submitted).effectiveName⟩
  interval := wait.budget.interval

/-- What a wait does whose fetches have these readings. -/
structure Endures (place : RecordKey) (readings : Nat → Except ClusterFailure kind.Record)
    (count : Nat) (outcome : Except Error Unit) : Prop where
  /-- The wait stops at the first reading that decides, or when the budget is spent. -/
  count_of_first : ∀ attempt, FirstSettling wait.decides readings attempt →
    count = min attempt wait.budget.limit
  /-- A wait that no reading decides spends the budget. -/
  count_of_none : (∀ attempt, wait.decides (readings attempt) = false) →
    count = wait.budget.limit
  /-- Short of the budget only the first reading that decides ends the wait. -/
  early : count < wait.budget.limit → FirstSettling wait.decides readings count
  /-- A record with the awaited status is a success. -/
  reached : ∀ record, readings (count - 1) = .ok record → wait.status record = wait.target →
    outcome = .ok ()
  /-- A record without it is reported with the status that it has. -/
  unreached : ∀ record, readings (count - 1) = .ok record → wait.status record ≠ wait.target →
    outcome = .error (.notReady kind.name place.name (wait.status record))
  /-- A refusal for an absence is reported as one. -/
  absent : ∀ refusal, readings (count - 1) = .error (.refused refusal) → refusal.code = 404 →
    outcome = .error (.notFound kind.name (place.namespaceName ++ "/" ++ place.name))
  /-- Any other failure is reported as it is. -/
  failed : ∀ failure, readings (count - 1) = .error failure →
    (∀ refusal, failure = .refused refusal → refusal.code ≠ 404) →
    outcome = .error (.cluster failure)

/-- Whether a refusal is final is what its report and the judgement of that report make of it. -/
theorem isFinal_eq (refusal : Refusal) :
    refusal.isFinal = (!saysAbsent (.refused refusal)
      && !(Error.cluster (.refused refusal)).isRetryable) := by
  have bounded : (refusal.code ≤ 499) = (refusal.code < 500) := by
    rw [UInt16.le_iff_toNat_le, UInt16.lt_iff_toNat_lt]
    exact propext Nat.lt_succ_iff.symm
  simp only [Refusal.isFinal, saysAbsent, Error.isRetryable, Error.blamesRequest, bounded,
    Bool.not_not, bne]
  -- What is left is the order in which the code is compared.
  ac_rfl

/-- The wait is settled by exactly the replies whose readings decide it. -/
theorem settles_reading (place : RecordKey) (reading : Except ClusterFailure kind.Record) :
    wait.settles (reading.mapError (fetchError kind place)) = wait.decides reading := by
  -- Only a refusal is judged by what it says; any other failure can be mended.
  cases reading with
  | ok record => rfl
  | error failure =>
    cases failure with
    | refused refusal =>
      -- An absence is reported as one before it is judged, and then it can be mended.
      rw [decides, isFinal_eq]
      show (!(fetchError kind place _).isRetryable) = _
      unfold fetchError
      split <;> simp_all [Error.isRetryable]
    | malformed causes => rfl
    | garbled cause => rfl
    | undecodable cause => rfl
    | unreachable causes => rfl

variable {server : Program.Handler Traffic.interface σ} {state : σ} {submitted : kind.Record}

/-- A wait that takes the replies of a server takes its readings until one decides. -/
theorem taken_readings {replies : List (Except Error kind.Record)}
    (taken : Taken wait.settles wait.budget.limit replies)
    (follows : Follows (wait.fetching server state submitted).reply replies) :
    Taken wait.decides wait.budget.limit
      ((List.range replies.length).map (wait.fetching server state submitted).reading) := by
  let fetching := wait.fetching server state submitted
  -- Each reply is the report of a reading, and it settles what the reading decides.
  have reported : replies = ((List.range replies.length).map fetching.reading).map
      fun reading => reading.mapError (fetchError kind fetching.place) := by
    rw [List.map_map]
    exact follows.eq_map_range
  rw [reported] at taken
  have same : (wait.settles ∘ fun reading => reading.mapError (fetchError kind fetching.place))
      = wait.decides := funext (wait.settles_reading fetching.place)
  have decided := taken.of_map
  rwa [same] at decided

/-- A wait that takes the replies of a server endures its readings until one decides. -/
theorem endures_of_taken {replies : List (Except Error kind.Record)}
    (taken : Taken wait.settles wait.budget.limit replies)
    (follows : Follows (wait.fetching server state submitted).reply replies) :
    wait.Endures (wait.fetching server state submitted).place
      (wait.fetching server state submitted).reading replies.length
      (wait.ended submitted replies) := by
  let fetching := wait.fetching server state submitted
  -- The last reply decides how the wait ends, and it is the report of the last reading.
  have ended : wait.ended submitted replies = wait.verdict submitted
      ((fetching.reading (replies.length - 1)).mapError (fetchError kind fetching.place)) := by
    rw [StatusWait.ended, follows.getLast?_eq taken.ne_nil, Option.map_some, Option.getD_some]
    rfl
  have decided := wait.taken_readings taken follows
  have following : Follows fetching.reading _ := Poll.follows_map_range replies.length
  refine ⟨?first, ?none, ?early, ?reached, ?unreached, ?absent, ?failed⟩
  case first =>
    intro attempt first
    simpa using decided.length_of_first following first
  case none =>
    intro none
    simpa using decided.length_of_none following none
  case early =>
    intro short
    simpa using decided.first_of_short following (by simpa using short)
  case reached =>
    intro record read reached
    rw [ended, read]
    exact if_pos (beq_iff_eq.mpr reached)
  case unreached =>
    intro record read unreached
    rw [ended, read]
    exact if_neg (mt beq_iff_eq.mp unreached)
  case absent =>
    intro refusal read absence
    have reported : fetchError kind fetching.place (.refused refusal)
        = .notFound kind.name (fetching.place.namespaceName ++ "/" ++ fetching.place.name) :=
      if_pos (beq_iff_eq.mpr absence)
    rw [ended, read]
    exact congrArg Except.error reported
  case failed =>
    intro failure read otherwise
    have reported : fetchError kind fetching.place failure = .cluster failure := by
      refine if_neg ?_
      cases failure with
      | refused refusal => exact mt beq_iff_eq.mp (otherwise refusal rfl)
      | malformed _ | garbled _ | undecodable _ | unreachable _ => exact Bool.false_ne_true
    rw [ended, read]
    exact congrArg Except.error reported

/-- A program waits for a submitted record over the server of a cluster: whatever the server answers,
it endures the readings until one decides, and it makes no exchanges but its fetches. If the record's name
and its namespace, or the one that stands in for it, are made for paths, each fetch asks for the path
that lies there. -/
def EnduresOver (submitted : kind.Record) (path : String → String → String)
    (program : Program Traffic.interface (kind.Record × Except Error Unit)) : Prop :=
  ∀ {σ : Type} (server : Program.Handler Traffic.interface σ) (state : σ),
    let fetching := wait.fetching server state submitted
    (∃ count, wait.Endures fetching.place fetching.reading count (program.run server state).1.2
        ∧ program.transcript server state = fetching.traffic count)
      ∧ ∀ name, (kind.metadata submitted).name = some name → IsName name →
        let namespaceName := ((kind.metadata submitted).namespaceName.filter (· ≠ "")).getD "default"
        IsPathText namespaceName →
          fetching.place = ⟨namespaceName, name⟩ ∧ fetching.Asks (path namespaceName name)

/-- The wait of a workflow over the server endures what does not decide it. -/
theorem enduresOver_awaitStatus (submitted : kind.Record) {path : String → String → String}
    (home : wait.namespaceName submitted = (kind.metadata submitted).namespaceOr defaultNamespace)
    (paths : ∀ namespaceName name,
      path namespaceName name = collectionPath kind namespaceName ++ "/" ++ name) :
    wait.EnduresOver submitted path ((Workflow.awaitStatus kind wait.status wait.target wait.budget
      (wait.namespaceName submitted) (kind.metadata submitted).effectiveName
      submitted).interpret Workflow.overServer) := by
  intro σ server state fetching
  refine ⟨?endured, ?asked⟩
  case asked =>
    intro name given named namespaceName plain
    have place : fetching.place = ⟨namespaceName, name⟩ := by
      have own : (kind.metadata submitted).effectiveName = name := by
        rw [Metadata.effectiveName, given]
        rfl
      show (⟨wait.namespaceName submitted, (kind.metadata submitted).effectiveName⟩ : RecordKey) = _
      rw [home, own, Metadata.namespaceOr_eq]
      rfl
    have asks := fetching.asks_of_named (by rwa [place]) (by rwa [place])
    rw [place] at asks
    exact ⟨place, paths namespaceName name ▸ asks⟩
  -- A run over the server is one of the workflow, whose fetches get the replies of the server.
  obtain ⟨exchanges, runs, realised⟩ :=
    Program.runs_interpret (Program.runs_transcript server _ state)
  obtain ⟨replies, taken, rfl, -, outcome⟩ := wait.runs_awaitStatus runs
  obtain ⟨follows, exchanged⟩ :=
    fetching.follows_of_realised (Program.transcript_gives server _ state) realised
  refine ⟨replies.length, ?_, exchanged⟩
  rw [outcome]
  exact wait.endures_of_taken taken follows

end StatusWait

namespace Workflow

open Cluster

/-- The path of a database. -/
theorem databasePath_eq (namespaceName name : String) :
    "/apis/dbflow.dev/v1alpha1/namespaces/" ++ namespaceName ++ "/databases/" ++ name
      = collectionPath .database namespaceName ++ "/" ++ name := by
  have root : "/apis/dbflow.dev/v1alpha1/namespaces/"
      = "/apis/" ++ Kind.version .database ++ "/namespaces/" := by decide
  have plural : "/databases/" = "/" ++ Kind.plural .database ++ "/" := by decide
  simp only [root, plural, collectionPath, String.append_assoc]

/-- The path of a pod. -/
theorem podPath_eq (namespaceName name : String) :
    "/api/v1/namespaces/" ++ namespaceName ++ "/pods/" ++ name
      = collectionPath .pod namespaceName ++ "/" ++ name := by
  have root : "/api/v1/namespaces/" = "/api/" ++ Kind.version .pod ++ "/namespaces/" := by decide
  have plural : "/pods/" = "/" ++ Kind.plural .pod ++ "/" := by decide
  simp only [root, plural, collectionPath, String.append_assoc]

/-- A reply shows the database gone when fetching it failed for any cause, or brought a record without
a name. -/
theorem isGone_reply_iff {σ : Type} (fetching : Fetching σ .database) (attempt : Nat) :
    isGone (fetching.reply attempt) = true ↔
      (∃ failure, fetching.reading attempt = .error failure)
        ∨ ∃ record, fetching.reading attempt = .ok record
          ∧ (record.metadata.name = none ∨ record.metadata.name = some "") := by
  -- The report of a failure is a failure too, whatever it says.
  show isGone ((fetching.reading attempt).mapError (fetchError .database fetching.place)) = true ↔ _
  cases fetching.reading attempt with
  | error failure => exact iff_of_true rfl (Or.inl ⟨failure, rfl⟩)
  | ok record =>
    constructor
    · intro nameless
      exact Or.inr ⟨record, rfl, of_decide_eq_true nameless⟩
    · rintro (⟨failure, ⟨⟩⟩ | ⟨other, ⟨⟩, nameless⟩)
      exact decide_eq_true nameless

/-- A program waits for a deletion over the server of a cluster: whatever the server answers, it ends
at the first reply that shows the database gone, and it makes no exchanges but its fetches. If the
namespace and the name are made for paths, each fetch asks for the path of the database. -/
def GoneOver (budget : Budget) (place : RecordKey)
    (program : Program Traffic.interface (Except Error Unit)) : Prop :=
  ∀ {σ : Type} (server : Program.Handler Traffic.interface σ) (state : σ),
    let fetching : Fetching σ .database := ⟨server, state, place, budget.interval⟩
    (∃ count, GoneWaited budget place.name fetching.reply count (program.run server state).1
        ∧ program.transcript server state = fetching.traffic count)
      ∧ (∀ attempt, isGone (fetching.reply attempt) = true ↔
        (∃ failure, fetching.reading attempt = .error failure)
          ∨ ∃ record, fetching.reading attempt = .ok record
            ∧ (record.metadata.name = none ∨ record.metadata.name = some ""))
      ∧ (IsPathText place.namespaceName → IsName place.name → fetching.Asks
        ("/apis/dbflow.dev/v1alpha1/namespaces/" ++ place.namespaceName ++ "/databases/" ++ place.name))

/-- The wait of a workflow for a deletion ends over the server at the first failure. -/
theorem goneOver_awaitDeleted (budget : Budget) (place : RecordKey) :
    GoneOver budget place
      ((awaitDeleted budget place.namespaceName place.name).interpret overServer) := by
  intro σ server state fetching
  -- As for a status, a run over the server is one of the workflow with the replies of the server.
  obtain ⟨exchanges, runs, realised⟩ :=
    Program.runs_interpret (Program.runs_transcript server _ state)
  obtain ⟨replies, taken, rfl, outcome⟩ := runs_awaitDeleted place runs
  obtain ⟨follows, exchanged⟩ :=
    fetching.follows_of_realised (Program.transcript_gives server _ state) realised
  refine ⟨⟨replies.length, ?_, exchanged⟩, isGone_reply_iff fetching, fun plain named => ?_⟩
  · rw [outcome]
    exact goneWaited_of_taken taken follows
  · rw [databasePath_eq]
    exact fetching.asks_of_named plain named

/-- An answer without a text is neither a refusal nor a record. -/
theorem readRecord_of_garbled {kind : Kind} {response : Http.Response} {fault : String}
    (garbled : Text.Utf8.decode response.body = .error fault) :
    readRecord kind response = .error (.garbled fault) := by
  rw [readRecord, accepted_of_garbled garbled]
  rfl

/-- An answer with a text is what its status makes of that. -/
theorem readRecord_of_text {kind : Kind} {response : Http.Response} {text : String}
    (shown : Text.Utf8.decode response.body = .ok text) :
    readRecord kind response =
      if Http.isFailure response.status then .error (.refused (refusal response.status text))
      else decoded (Json.read text >>= kind.read?) := by
  rw [readRecord, accepted_of_text shown]
  split <;> rfl

/-- An answer is a refusal exactly when its status says so and it has a text, and then it is the one that
the text gives; it is a record exactly when its status does not say so and its text is read as one. -/
theorem readRecord_eq_iff (kind : Kind) (response : Http.Response) :
    (∀ said, readRecord kind response = .error (.refused said) ↔
      (400 ≤ response.status.toNat ∧ response.status.toNat ≤ 599)
        ∧ ∃ text, Text.Utf8.decode response.body = .ok text ∧ said = refusal response.status text)
    ∧ ∀ record, readRecord kind response = .ok record ↔
      ¬ (400 ≤ response.status.toNat ∧ response.status.toNat ≤ 599)
        ∧ ∃ text, Text.Utf8.decode response.body = .ok text
          ∧ Json.read text >>= kind.read? = some record := by
  have fails_iff : (400 ≤ response.status.toNat ∧ response.status.toNat ≤ 599) ↔
      Http.isFailure response.status = true := by
    simp only [Http.isFailure, Bool.and_eq_true, decide_eq_true_eq, UInt16.le_iff_toNat_le,
      UInt16.lt_iff_toNat_lt, UInt16.toNat_ofNat]
    omega
  rw [fails_iff]
  cases shown : Text.Utf8.decode response.body with
  | error fault =>
    rw [readRecord_of_garbled shown]
    exact ⟨fun said => by simp, fun record => by simp⟩
  | ok text =>
    rw [readRecord_of_text shown]
    simp only [Except.ok.injEq, exists_eq_left']
    by_cases fails : Http.isFailure response.status = true
    · -- The text is not looked at for a record.
      simp [fails, eq_comm]
    · -- What is accepted is a record, or it cannot be read.
      cases Json.read text >>= kind.read? <;> simp [fails, decoded]

/-- Waits over the server of a cluster. Those for a status endure absences, floods of requests, codes
that do not blame the request, answers that do not come or cannot be read, and records without the
status; the wait for a deletion takes every failure for the end. All of them ask for the path of the record
again and again, and read it off the answers. -/
theorem waits_endure_transient_answers (timings : Timings) (database : Database) (pod : Pod)
    (place : RecordKey) :
    (StatusWait.databaseReady timings).EnduresOver database
        (fun namespaceName name =>
          "/apis/dbflow.dev/v1alpha1/namespaces/" ++ namespaceName ++ "/databases/" ++ name)
        ((awaitDatabase timings database).interpret overServer)
      ∧ (StatusWait.workloadRunning timings).EnduresOver pod
        (fun namespaceName name => "/api/v1/namespaces/" ++ namespaceName ++ "/pods/" ++ name)
        ((awaitWorkload timings pod).interpret overServer)
      ∧ GoneOver timings.databaseDeleted place
        ((awaitDeleted timings.databaseDeleted place.namespaceName place.name).interpret
          overServer)
      ∧ ∀ (kind : Kind) (response : Http.Response),
        (∀ said, readRecord kind response = .error (.refused said) ↔
          (400 ≤ response.status.toNat ∧ response.status.toNat ≤ 599)
            ∧ ∃ text, Text.Utf8.decode response.body = .ok text
              ∧ said = refusal response.status text)
        ∧ ∀ record, readRecord kind response = .ok record ↔
          ¬ (400 ≤ response.status.toNat ∧ response.status.toNat ≤ 599)
            ∧ ∃ text, Text.Utf8.decode response.body = .ok text
              ∧ Json.read text >>= kind.read? = some record := by
  refine ⟨?readying, ?starting, goneOver_awaitDeleted _ place, readRecord_eq_iff⟩
  case readying =>
    exact (StatusWait.databaseReady timings).enduresOver_awaitStatus database rfl databasePath_eq
  case starting =>
    exact (StatusWait.workloadRunning timings).enduresOver_awaitStatus pod rfl podPath_eq

/-- A server that answers requests one after another, whatever they ask for. -/
def answering : Program.Handler Traffic.interface (List (Except ClusterFailure Http.Response))
  | .send _, answers => (answers.headD (.error (.unreachable [])), answers.tail)
  | .pass call, answers => ((Rehearsal.answer call {}).1, answers)

/-- A refusal with this code. -/
def refusalWith (code : UInt16) : Refusal := ⟨"Failure", "not now", "Refused", code⟩

/-- Answers that show the database after an absence, an overload, a broken connection, a text that is no
record, bytes that are no text, and a database that is not ready. -/
def troubledAnswers : List (Except ClusterFailure Http.Response) :=
  [.ok (refused (refusalWith 404)), .ok (refused (refusalWith 429)), .ok (refused (refusalWith 500)),
    .error (.unreachable ["reset"]), .ok (.ofText 200 "[]"), .ok ⟨200, [0xC3]⟩,
    .ok (.ofText 200 (Json.write (ordersShown (some "CREATING")).write)),
    .ok (.ofText 200 (Json.write (ordersShown (some "READY")).write))]

/-- The wait for the database goes on until the eighth answer shows it ready, that for the workload ends at
the first because it is forbidden to look, and that for the deletion ends at the first failure. -/
theorem waits_endure_seven_answers :
    let timings : Timings := ⟨⟨5, 9⟩, ⟨7, 9⟩, ⟨3, 9⟩⟩
    let readying := (awaitDatabase timings (ordersShown none)).interpret overServer
    let starting := (awaitWorkload timings (workloadShown none)).interpret overServer
    let deleting := (awaitDeleted timings.databaseDeleted "shop" "orders").interpret overServer
    let forbidden : List (Except ClusterFailure Http.Response) := [.ok (refused (refusalWith 403))]
    let failing : List (Except ClusterFailure Http.Response) :=
      [.ok (.ofText 200 (Json.write (ordersShown none).write)), .ok (refused (refusalWith 500))]
    ((readying.run answering troubledAnswers).1.2 = .ok ()
        ∧ readying.transcript answering troubledAnswers = requested
          ⟨.get, "/apis/dbflow.dev/v1alpha1/namespaces/shop/databases/orders", none⟩ 5 troubledAnswers)
      ∧ ((starting.run answering forbidden).1.2 = .error (.cluster (.refused (refusalWith 403)))
        ∧ starting.transcript answering forbidden = requested
          ⟨.get, "/api/v1/namespaces/shop/pods/verify", none⟩ 7 forbidden)
      ∧ (deleting.run answering failing).1 = .ok ()
        ∧ deleting.transcript answering failing = requested
          ⟨.get, "/apis/dbflow.dev/v1alpha1/namespaces/shop/databases/orders", none⟩ 3 failing := by
  intro timings readying starting deleting forbidden failing
  obtain ⟨readied, started, gone, -⟩ := waits_endure_transient_answers timings (ordersShown none)
    (workloadShown none) ⟨"shop", "orders"⟩
  refine ⟨?readying, ?starting, ?deleting⟩
  case readying =>
    let wait := StatusWait.databaseReady timings
    let fetching := wait.fetching answering troubledAnswers (ordersShown none)
    obtain ⟨⟨count, endures, exchanged⟩, asking⟩ := readied answering troubledAnswers
    obtain ⟨-, asks⟩ := asking "orders" rfl (by decide) (by decide)
    have refusing (attempt : Nat) (code : UInt16) (fails : Http.isFailure code = true)
        (answered : fetching.answer ⟨.get, _, none⟩ attempt = .ok (refused (refusalWith code))) :
        fetching.reading attempt = .error (.refused (refusalWith code)) :=
      (asks.reading_answered attempt _ answered).trans (readRecord_refused .database fails)
    have unread : fetching.reading 4 = .error (.undecodable "unexpected content") :=
      (asks.reading_answered 4 _ rfl).trans
        ((readRecord_of_text (Text.Utf8.decode_encode "[]")).trans rfl)
    have garbled : fetching.reading 5
        = .error (.garbled "incomplete utf-8 byte sequence from index 0") :=
      (asks.reading_answered 5 _ rfl).trans (readRecord_of_garbled (by decide +kernel))
    have creating : fetching.reading 6 = .ok (ordersShown (some "CREATING")) :=
      (asks.reading_answered 6 _ rfl).trans (readRecord_shown .database _ (by decide))
    have ready : fetching.reading 7 = .ok (ordersShown (some "READY")) :=
      (asks.reading_answered 7 _ rfl).trans (readRecord_shown .database _ (by decide))
    have eighth : FirstSettling wait.decides fetching.reading 8 := by
      refine ⟨by rw [ready]; rfl, fun earlier below => ?_⟩
      match earlier, below with
      | 0, _ => rw [refusing 0 404 (by decide) rfl]; rfl
      | 1, _ => rw [refusing 1 429 (by decide) rfl]; rfl
      | 2, _ => rw [refusing 2 500 (by decide) rfl]; rfl
      | 3, _ => rw [asks.reading_unanswered 3 _ rfl]; rfl
      | 4, _ => rw [unread]; rfl
      | 5, _ => rw [garbled]; rfl
      | 6, _ => rw [creating]; rfl
    obtain rfl : count = 8 := endures.count_of_first 8 eighth
    exact ⟨endures.reached _ ready rfl, exchanged.trans ((asks.traffic_eq 8).trans rfl)⟩
  case starting =>
    let wait := StatusWait.workloadRunning timings
    let fetching := wait.fetching answering forbidden (workloadShown none)
    obtain ⟨⟨count, endures, exchanged⟩, asking⟩ := started answering forbidden
    obtain ⟨-, asks⟩ := asking "verify" rfl (by decide) (by decide)
    have refusing : fetching.reading 0 = .error (.refused (refusalWith 403)) :=
      (asks.reading_answered 0 _ rfl).trans (readRecord_refused .pod (by decide))
    have first : FirstSettling wait.decides fetching.reading 1 := ⟨by rw [refusing]; rfl, nofun⟩
    obtain rfl : count = 1 := endures.count_of_first 1 first
    refine ⟨endures.failed _ refusing ?_, exchanged.trans ((asks.traffic_eq 1).trans rfl)⟩
    rintro refusal ⟨⟩
    decide
  case deleting =>
    let fetching : Fetching _ .database := ⟨answering, failing, ⟨"shop", "orders"⟩, 3⟩
    obtain ⟨⟨count, waited, exchanged⟩, gone_iff, asking⟩ := gone answering failing
    have asks := asking (by decide) (by decide)
    have standing : fetching.reading 0 = .ok (ordersShown none) :=
      (asks.reading_answered 0 _ rfl).trans (readRecord_shown .database _ (by decide))
    have failed : fetching.reading 1 = .error (.refused (refusalWith 500)) :=
      (asks.reading_answered 1 _ rfl).trans (readRecord_refused .database (by decide))
    have second : FirstSettling isGone fetching.reply 2 := by
      refine ⟨(gone_iff 1).mpr (.inl ⟨_, failed⟩), fun earlier below => ?_⟩
      obtain rfl : earlier = 0 := Nat.lt_one_iff.mp below
      rw [← Bool.not_eq_true, gone_iff, standing]
      rintro (⟨failure, ⟨⟩⟩ | ⟨record, ⟨⟩, nameless⟩)
      simp [ordersShown] at nameless
    obtain rfl : count = 2 := waited.count_of_first 2 second
    exact ⟨waited.completed_iff.mpr ⟨2, by decide, second⟩,
      exchanged.trans ((asks.traffic_eq 2).trans rfl)⟩

end Workflow

end DatabaseLifecycle

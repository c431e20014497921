import Cislunar.Foundation.Observer
import Cislunar.Proofs.Services.Agreement

/-!
What the gateway answers is true of the tables at the moment it answers.

A success has been recorded and queued. A refusal comes from a handler that has itself touched neither
packets nor jobs nor sequence states, whatever the other processes have done to them meanwhile.
-/

namespace Cislunar

open Foundation Ground

/-- No packet, no job and no sequence state was added or changed. -/
structure SameWork (before after : Database) : Prop where
  packets : after.packets = before.packets
  jobs : after.jobs = before.jobs
  states : after.states = before.states

/-- A database has the same work as itself. -/
theorem SameWork.refl (db : Database) : SameWork db db := ⟨rfl, rfl, rfl⟩

/-- The requests that leave packets, jobs and sequence states alone, whatever they answer. -/
def Request.isQuiet : Request → Bool
  | .clock => true
  | .queue _ => true
  | .repository (.recordDelivery _ _) _ | .repository (.rejectDelivery _ _ _ _) _
  | .repository (.recordAuditEvent _) _ => true
  | .repository call _ => call.isRead

section Tables
variable {db : Database}

/-- A delivery that is recorded leaves packets, jobs and sequence states alone. -/
theorem RecordOutcome.sameWork {delivery : Delivery} {receiptId : UUID}
    {outcome : Except StorageError DeliveryRecordResult × Database}
    (happened : RecordOutcome db delivery receiptId outcome) : SameWork db outcome.2 := by
  -- No outcome of the call touches jobs, packets or results.
  cases happened <;> exact ⟨rfl, rfl, rfl⟩

/-- A delivery that is rejected leaves packets, jobs and sequence states alone. -/
theorem RejectOutcome.sameWork {receiptId : UUID} {reason : String}
    {parsedIdentifiers : Option JsonObject} {actorIdentity : String}
    {outcome : Except StorageError DeliveryRecordResult × Database}
    (happened : RejectOutcome db receiptId reason parsedIdentifiers actorIdentity outcome) :
    SameWork db outcome.2 := by
  -- No outcome of the call touches jobs, packets or results.
  cases happened <;> exact ⟨rfl, rfl, rfl⟩

/-- An acceptance that conflicts touches its receipt only. -/
theorem AcceptOutcome.sameWork {receiptId jobId : UUID} {values : DecodedTelemetryValues}
    {options : AcceptanceOptions} {outcome : Except StorageError PacketAcceptanceResult × Database}
    (happened : AcceptOutcome db receiptId values jobId options outcome)
    {accepted : PacketAcceptanceResult} (answered : outcome.1 = .ok accepted)
    (conflict : accepted.conflict = true) : SameWork db outcome.2 := by
  -- Of the outcomes that answer with a conflict each settles the receipt alone.
  cases happened with
  | missing | refused | replayed => exact .refl db
  | settled found status settles =>
    cases settles with
    | duplicated | conflicted | stateConflicted => exact ⟨rfl, rfl, rfl⟩
    | integrity => exact .refl db
    | accepted =>
      cases answered
      cases conflict

/-- A quiet request leaves packets, jobs and sequence states alone. -/
theorem Request.sameWork {request : Request} (quiet : request.isQuiet = true) (uuid4 : Nat → UUID)
    (fault : Fault) (ground : Ground) :
    SameWork ground.database (ground.performFresh uuid4 fault request).2.database := by
  -- The queue is another store; of the calls on the tables only the quiet ones are left.
  cases request with
  | clock => exact .refl _
  | queue call => cases fault <;> exact .refl _
  | repository call held =>
    have effect : SameWork ground.database
        (call.exec ⟨uuid4, ground.clock⟩ ground.database).2 := by
      cases call with
      | recordDelivery delivery receiptId =>
        rcases recordDelivery_serially delivery receiptId uuid4 ground.database with
          ⟨_, failed⟩ | ⟨_, happened⟩
        · exact congrArg Prod.snd failed ▸ .refl _
        · exact happened.sameWork
      | rejectDelivery receiptId reason parsedIdentifiers actorIdentity =>
        exact (rejectDelivery_exec _ _ receiptId reason parsedIdentifiers actorIdentity).sameWork
      | recordAuditEvent => exact ⟨rfl, rfl, rfl⟩
      | acceptPacketAndCreateJob | markJobQueued | claimProcessingJob | completeProcessingJob
      | failProcessingAttempt => cases quiet
      | pendingQueueJobs | recoverableQueueJobs | getDelivery | getPacket | getProcessed | getJob
      | getJobForPacket | listAuditEvents | processingQueueDepth =>
        rw [RepoCall.read_exec]
        · exact .refl _
        · rfl
    cases fault
    · exact effect
    · exact .refl _
    · exact effect

end Tables

/-- Whether a process has touched packets, jobs or sequence states so far. -/
def touches (touched : Prop) (before after : Ground) : Prop :=
  touched ∨ ¬SameWork before.database after.database

/-- The ground system, with a note of which processes have touched the work. -/
abbrev NotedGround := Ground × (Nat → Prop)

/-- The answers with which the gateway refuses a request. -/
def Response.isRefusal (response : Response) : Bool :=
  response.statusCode ∈ [400, 401, 409, 413, 422]

section Walk
variable {α : Type} {thread : Nat}

/-- A service has touched nothing by the time it refuses. -/
abbrev Refuses (thread : Nat) (pre : NotedGround → Prop) (service : Service Response) : Prop :=
  Triple (noteProtocol Nat Failure Request.Reply Ground Prop) (currentMachine.observe touches) thread
    pre service fun outcome state =>
      ∀ response, outcome = .ok response → response.isRefusal = true → ¬state.2 thread

/-- A service of quiet requests touches nothing. -/
theorem quiet_of_only {service : Service α}
    (requests : service.Only fun request => request.isQuiet = true) :
    Triple (noteProtocol Nat Failure Request.Reply Ground Prop) (currentMachine.observe touches)
      thread (fun state => ¬state.2 thread) service fun _ state => ¬state.2 thread := by
  -- The note changes only where the tables do.
  refine Triple.noted_of_only (fun touched => ¬touched) requests ?_
  rintro touched untouched request quiet choice before reply after performed (already | changed)
  · exact untouched already
  · have same := request.sameWork quiet choice.1 choice.2 before
    rw [currentMachine_exec performed] at same
    exact changed same

/-- A quiet service may refuse in the end. -/
theorem Refuses.of_quiet {service : Service Response}
    (requests : service.Only fun request => request.isQuiet = true) :
    Refuses thread (fun state => ¬state.2 thread) service :=
  (quiet_of_only requests).weaken (fun _ => id) fun _ _ untouched _ _ _ => untouched

/-- A quiet service before one that touches nothing where it refuses. -/
theorem Refuses.bind {service : Service α} {next : α → Service Response}
    (requests : service.Only fun request => request.isQuiet = true)
    (second : ∀ value, Refuses thread (fun state => ¬state.2 thread) (next value)) :
    Refuses thread (fun state => ¬state.2 thread) (service >>= next) :=
  Triple.bind ((quiet_of_only requests).weaken (fun _ => id) fun _ _ untouched =>
    ⟨fun _ _ => untouched, fun _ _ _ same => by cases same⟩) second

/-- A service that raises an error does not refuse. -/
theorem Refuses.raise {failure : Failure} {pre : NotedGround → Prop} :
    Refuses thread pre (Prog.raise failure) :=
  Triple.raise fun _ _ _ same => by cases same

/-- An answer that is no refusal. -/
theorem Refuses.of_answer {response : Response} {pre : NotedGround → Prop}
    (other : response.isRefusal = false) : Refuses thread pre (Prog.done response) := by
  -- The answer is no refusal, so there is nothing to show of the tables.
  refine Triple.done fun state _ answer same refusal => ?_
  cases same
  rw [other] at refusal
  cases refusal

/-- A service that ends with a success or not at all does not refuse. -/
theorem Refuses.of_success {service : Service α} {answer : α → Response}
    {pre : NotedGround → Prop} (success : ∀ value, (answer value).isRefusal = false) :
    Refuses thread pre (service >>= fun value => Prog.done (answer value)) :=
  Triple.andThen (Triple.unnoted service) (fun _ _ _ same => by cases same)
    fun value => Refuses.of_answer (success value)

/-- Recording an audit event is quiet. -/
theorem auditSafely_quiet (event : TelemetryAuditEvent) :
    (auditSafely event).Only fun request => request.isQuiet = true := by
  -- The one request writes an audit event.
  refine .tryCatch (.bind (.call rfl) fun _ => trivial) fun failure => ?_
  split_ifs <;> trivial

/-- A replayed receipt that has yet to be queued is refused by nothing. -/
theorem requeueReceipt_refuses (receipt : TelemetryDeliveryReceipt) (packetId : String) :
    Refuses thread (fun state => ¬state.2 thread) (requeueReceipt receipt packetId) := by
  -- Queueing a job ends with a success or raises.
  refine .bind (.call rfl) fun found => ?_
  cases found with
  | none => exact .raise
  | some job =>
    refine .of_success fun transitioned => ?_
    cases transitioned <;> rfl

/-- An acceptance is refused only for a conflict. -/
theorem answerAcceptance_refuses (accepted : PacketAcceptanceResult) :
    Refuses thread (fun state => accepted.conflict = true → ¬state.2 thread)
      (answerAcceptance accepted) := by
  -- Every answer but that of a conflict is a success.
  rw [answerAcceptance]
  dsimp only
  split_ifs with conflict duplicate
  · exact Triple.done fun _ untouched _ _ _ => untouched conflict
  · split
    · exact .of_success fun _ => rfl
    · exact Refuses.of_answer rfl
  · split
    · exact .of_success fun _ => rfl
    · exact .raise

/-- An acceptance with a conflict has touched nothing. -/
theorem accept_noted (receiptId : UUID) (values : DecodedTelemetryValues) (maxAttempts : Int)
    (actorIdentity : String) (held : Held) :
    Triple (noteProtocol Nat Failure Request.Reply Ground Prop) (currentMachine.observe touches)
      thread (fun state => ¬state.2 thread)
      (callRepository (.acceptPacketAndCreateJob receiptId values maxAttempts actorIdentity) held)
      fun outcome state => ∀ accepted, outcome = .ok accepted → accepted.conflict = true →
        ¬state.2 thread := by
  -- The call either changed nothing before it was made or has the outcome of an acceptance.
  refine Triple.noted currentMachine (.repository (.acceptPacketAndCreateJob receiptId values
    maxAttempts actorIdentity) held) (fun touched => ¬touched) (fun outcome touched =>
      ∀ accepted, outcome = .ok accepted → accepted.conflict = true → ¬touched) ?_
  rintro touched untouched choice before _ after performed accepted rfl conflict (already | changed)
  · exact untouched already
  · have answered := exec_of_performFresh (currentMachine_exec performed)
    rw [RepoCall.exec, RepoCall.program] at answered
    rcases acceptPacketAndCreateJob_serially receiptId values
      { maxAttempts := maxAttempts, actorIdentity := actorIdentity, now := before.clock } choice.1
      before.database with ⟨_, failed⟩ | ⟨-, -, _, happened⟩
    · cases failed.symm.trans answered
    · rw [answered] at happened
      exact changed (happened.sameWork rfl conflict)

/-- Validating a delivery refuses untouched. -/
theorem validateDelivery_refuses (settings : GroundSettings) (receiptId : UUID) (rawBody : Bytes)
    (receivedAt : Time) (existing : Option TelemetryDeliveryReceipt) :
    Refuses thread (fun state => ¬state.2 thread)
      (validateDelivery settings receiptId rawBody receivedAt existing) := by
  -- A rejection is quiet; an acceptance refuses for a conflict, which has touched nothing.
  rw [validateDelivery]
  split
  · exact .of_quiet (.bind (.call rfl) fun _ => trivial)
  · exact .raise
  · refine Triple.bind ((accept_noted receiptId _ _ _ _).weaken (fun _ => id) fun _ _ untouched =>
      ⟨fun accepted same => untouched accepted same, fun _ _ _ same => by cases same⟩)
      answerAcceptance_refuses

/-- Checking a delivery refuses untouched. -/
theorem checkDelivery_refuses (settings : GroundSettings) (vendor : VendorRequest)
    (rawBody : Bytes) (receivedAt : Time) (receiptId : UUID)
    (existing : Option TelemetryDeliveryReceipt) :
    Refuses thread (fun state => ¬state.2 thread)
      (checkDelivery settings vendor rawBody receivedAt receiptId existing) := by
  -- Both rejections are quiet, and the branches behind them are done already.
  unfold checkDelivery
  split_ifs
  · exact .of_quiet (.bind (.call rfl) fun _ => trivial)
  · exact .of_quiet (.bind (.call rfl) fun _ => trivial)
  · split
    · exact requeueReceipt_refuses _ _
    · exact validateDelivery_refuses _ _ _ _ _

/-- Delivering a payload refuses untouched. -/
theorem deliver_refuses (settings : GroundSettings) (vendor : VendorRequest) (rawBody : Bytes)
    (receivedAt : Time) :
    Refuses thread (fun state => ¬state.2 thread)
      (deliver settings vendor rawBody receivedAt) := by
  -- Recording and reading are quiet, so nothing is touched before the checks.
  refine .bind (.call rfl) fun delivery => ?_
  split_ifs
  · exact .of_quiet trivial
  · refine .bind ?_ fun existing => ?_
    · rw [replayedReceipt]
      split_ifs
      · refine .bind (.call rfl) fun found => ?_
        cases found <;> trivial
      · trivial
    · split
      · exact .of_quiet trivial
      · exact checkDelivery_refuses _ _ _ _ _ _

/-- A handler has touched nothing by the time it refuses. -/
theorem receivePayloadData_refuses (settings : GroundSettings) (vendor : VendorRequest) :
    Refuses thread (fun state => ¬state.2 thread) (receivePayloadData settings vendor) := by
  have refused : Refuses thread (fun state => ¬state.2 thread) (refuseVendor vendor) :=
    .of_quiet (.bind (auditSafely_quiet _) fun _ => trivial)
  rw [receivePayloadData]
  split
  · exact refused
  · split
    · exact .of_quiet trivial
    · rw [receiveAuthenticated]
      split
      · exact .of_quiet (.bind (auditSafely_quiet _) fun _ => trivial)
      · refine .bind (.call rfl) fun receivedAt => ?_
        -- An error ends in a 503 or escapes, so it does not matter what was touched before it.
        refine Triple.tryCatch ((deliver_refuses settings vendor _ receivedAt).weaken (fun _ => id)
          fun outcome state quiet => ⟨fun value same response equal => ?_, fun _ _ => trivial⟩)
          fun failure => ?_
        · cases same
          exact quiet response equal
        · rw [answerUnavailable]
          split_ifs
          · exact Refuses.of_answer rfl
          · exact Refuses.of_answer rfl
          · exact Refuses.raise
    · exact refused

end Walk

/-- What a success promises: a settled receipt with the body, its packet, a source with the same
bytes, and a job that has been queued. -/
def Durable (db : Database) (rawBody : Bytes) : Prop :=
  ∃ receipt ∈ db.receipts, receipt.rawBody = rawBody ∧
    (receipt.validationStatus = .accepted ∨ receipt.validationStatus = .duplicate) ∧
    ∃ packet ∈ db.packets, receipt.logicalPacketId = some packet.packetId ∧
      (∃ source ∈ db.receipts, source.receiptId = packet.sourceReceiptId ∧
        source.rawBody = rawBody) ∧
      ∃ job ∈ db.jobs, job.packetId = packet.packetId ∧ job.state ≠ .pendingQueue

/-- What is delivered is durable. -/
theorem CrossStore.durable {ground : Ground} (cross : CrossStore ground) {rawBody : Bytes}
    (delivered : ground.Delivered rawBody) : Durable ground.database rawBody := by
  -- The receipt has a packet, and the packet named in the answer is that one.
  obtain ⟨packetId, ⟨receipt, member, rfl, status, named⟩, job, among, owner, queued⟩ := delivered
  obtain ⟨packet, stored, link, source⟩ := cross.reachable.ledger.packetOfReceipt member status
  obtain rfl : packetId = packet.packetId := Option.some.inj (named.symm.trans link)
  exact ⟨receipt, member, rfl, status, packet, stored, link, source, job, among, owner, queued⟩

/-- What a process owed for its answer stays true. -/
theorem Process.lasting_answered (process : Process) (answer : Option Response) :
    Lasting Later (process.Answered answer) := by
  -- Only a success of a gateway owes anything.
  intro before after held later
  cases process with
  | gateway settings vendor =>
    cases answer with
    | none => trivial
    | some response => exact fun success => later.delivered (held success)
  | startup | worker => trivial

section Runs
variable (assign : Nat → Process)

/--
The steps of the ground system, where it is fixed which process runs in which place and no call
decides on an outdated object.
-/
abbrev NotedStep : Config Nat Failure Request Request.Reply NotedGround (Option Response) →
    Config Nat Failure Request Request.Reply NotedGround (Option Response) → Prop :=
  Step (currentMachine.observe touches)
    -- A place where something was touched before is not used again.
    (fun thread state program => program = (assign thread).program ∧ ¬state.2 thread)
    fun before after => Ground.Ticks before.1 after.1 ∧ after.2 = before.2

/-- Empty stores, no process, and nothing touched. -/
def NotedGround.initial : Config Nat Failure Request Request.Reply NotedGround (Option Response) where
  state := ({}, fun _ => False)
  threads _ := none

variable {assign}

/-- A success that is reported is in the tables from then on. -/
theorem delivered_of_run {config : GroundConfig}
    (run : Relation.ReflTransGen (AssignedStep currentMachine assign) GroundConfig.initial config) :
    Sound (freshMachine fun _ => True) groundProtocol (fun thread outcome ground =>
      ∀ answer, outcome = .ok answer → (assign thread).Answered answer ground) config := by
  -- The run is one of the machine whose calls decide on current rows; the invariant is that of both
  -- stores.
  have started : Sound (freshMachine fun _ => True) groundProtocol (fun thread outcome ground =>
      ∀ answer, outcome = .ok answer → (assign thread).Answered answer ground)
      GroundConfig.initial := ⟨CrossStore.empty, fun _ _ running => nomatch running⟩
  refine Sound.run ?_ ?_ ?_ started (Relation.ReflTransGen.mono (fun _ _ => Step.fresh) _ _ run)
  · intro thread outcome before after reached later _ answer same
    exact (assign thread).lasting_answered answer before after (reached answer same) later
  · rintro thread ground _ valid rfl
    exact (assign thread).answers thread ground trivial
  · intro before after valid ticks
    obtain ⟨agreed, later⟩ := valid.tick ticks
    exact ⟨agreed, fun _ => later⟩

/-- A process that refuses has touched nothing. -/
theorem untouched_of_run {config : Config Nat Failure Request Request.Reply NotedGround
      (Option Response)}
    (run : Relation.ReflTransGen (NotedStep assign) NotedGround.initial config) :
    Sound (currentMachine.observe touches) (noteProtocol Nat Failure Request.Reply Ground Prop)
      (fun thread outcome state => ∀ settings vendor, assign thread = .gateway settings vendor →
        ∀ response, outcome = .ok (some response) → response.isRefusal = true → ¬state.2 thread)
      config := by
  -- The invariant says nothing of the stores: each thread has its own note, which only its own
  -- requests change.
  have free : ∀ thread (program : Service (Option Response)),
      Triple (noteProtocol Nat Failure Request.Reply Ground Prop) (currentMachine.observe touches)
        thread (fun _ => True) program fun _ _ => True := fun _ => Triple.unnoted
  have idle : ∀ thread program, NotedGround.initial.threads thread ≠ some program :=
    fun _ _ running => nomatch (show none = some _ from running)
  refine Sound.run ?_ ?_ ?_ ⟨trivial, fun _ _ running => absurd running (idle _ _)⟩ run
  · intro thread outcome before after reached same _ settings vendor assigned response answered refusal
    rw [show after.2 thread = before.2 thread from same]
    exact reached settings vendor assigned response answered refusal
  · rintro thread state _ - ⟨rfl, untouched⟩
    cases assigned : assign thread with
    | gateway settings vendor =>
      have handled : Triple (noteProtocol Nat Failure Request.Reply Ground Prop)
          (currentMachine.observe touches) thread (fun state => ¬state.2 thread)
          (Process.gateway settings vendor).program fun outcome state => ∀ response,
            outcome = .ok (some response) → response.isRefusal = true → ¬state.2 thread := by
        refine Triple.bind ((receivePayloadData_refuses settings vendor).weaken (fun _ => id)
          fun outcome state quiet => ⟨fun response same => quiet response same,
            fun _ _ _ same => nomatch same⟩) fun response => ?_
        refine Triple.done fun state quiet answer same => ?_
        cases same
        exact quiet
      exact (handled state untouched).weaken fun _ _ quiet _ _ _ => quiet
    | startup | worker =>
      refine (free thread _ state trivial).weaken fun _ _ _ _ _ same => ?_
      cases same
  · rintro before after - ⟨-, same⟩
    exact ⟨trivial, fun thread => congrFun same thread⟩

end Runs

/--
The answers of the gateway are sound about what is in the tables.

Handlers, recoveries and workers interleave in any order, and any of their requests may fail because
its store is unreachable; but no call decides on an object whose row has changed since it was loaded.
Where a handler has answered 200 or 202, the tables hold a settled receipt with the body of the
request, its packet and a job that has been queued. Where it has answered 400, 401, 409, 413 or 422,
no request that it made added or changed a packet, a job or a sequence state.
-/
theorem answers_sound (assign : Nat → Process)
    (config : Config Nat Failure Request Request.Reply NotedGround (Option Response))
    (run : Relation.ReflTransGen (NotedStep assign) NotedGround.initial config) (thread : Nat)
    (settings : GroundSettings) (vendor : VendorRequest)
    (assigned : assign thread = .gateway settings vendor) (response : Response)
    (answered : config.threads thread = some (.done (some response))) :
    (response.statusCode = 200 ∨ response.statusCode = 202 →
      Durable config.state.1.database vendor.body) ∧
    (response.statusCode ∈ [400, 401, 409, 413, 422] → ¬config.state.2 thread) := by
  -- The first part is an invariant of the stores, the second one of the notes.
  have delivered := delivered_of_run (forget_run (fun _ _ _ starting => starting.1)
    (fun _ _ moved => moved.1) run)
  have untouched := untouched_of_run run
  constructor
  · intro success
    have held := delivered.2 thread _ answered (some response) rfl
    rw [assigned] at held
    exact delivered.1.durable (held success)
  · intro refusal
    exact untouched.2 thread _ answered settings vendor assigned response rfl
      (decide_eq_true refusal)

/-- A process that has answered is done. -/
theorem threads_of_answerOf {σ : Type}
    {config : Config Nat Failure Request Request.Reply σ (Option Response)} {thread : Nat}
    {response : Response} (answered : answerOf config thread = some response) :
    config.threads thread = some (.done (some response)) := by
  -- Only a program that has ended with a response has an answer.
  rw [answerOf] at answered
  split at answered
  next answer finished => rw [finished, answered]
  next => cases answered

/-- One handler that has yet to deliver the golden vector. -/
def notedStart : Config Nat Failure Request Request.Reply NotedGround (Option Response) where
  state := ({ clock := 1784203201000000 }, fun _ => False)
  threads := Function.update (fun _ => none) 0
    (some (Process.gateway sampleSettings (sampleRequest goldenFrame)).program)

/-- The handler runs from the delivery of the golden vector to its answer. -/
def notedDelivery : Config Nat Failure Request Request.Reply NotedGround (Option Response) :=
  notedStart.actAll (currentMachine.observe touches) 0
    ([1, 1, 2, 2, 2].map fun id => (fun _ => id, ⟨.none, trivial⟩))

/-- The delivery is answered with 202, and the tables hold what that promises. -/
theorem delivered_answer_durable :
    (answerOf notedDelivery 0).map (·.statusCode) = some 202 ∧
      Durable notedDelivery.state.1.database goldenFrame := by
  -- The run is the one of the schedule: the clock moves, the gateway starts, and all of its
  -- requests are served.
  have code : (answerOf notedDelivery 0).map (·.statusCode) = some 202 := by decide +kernel
  refine ⟨code, ?_⟩
  obtain ⟨response, answered, status⟩ := Option.map_eq_some_iff.mp code
  have run : Relation.ReflTransGen (NotedStep fun _ =>
      .gateway sampleSettings (sampleRequest goldenFrame)) NotedGround.initial notedDelivery := by
    refine Relation.ReflTransGen.trans ?_ (Config.actAll_run _ 0 _ notedStart)
    have ticked : NotedStep (fun _ => .gateway sampleSettings (sampleRequest goldenFrame))
        NotedGround.initial ⟨({ clock := 1784203201000000 }, fun _ => False), fun _ => none⟩ :=
      .environment ⟨⟨1784203201000000, by decide, rfl⟩, rfl⟩
    exact (Relation.ReflTransGen.single ticked).tail (.start rfl ⟨rfl, fun touched => touched⟩)
  exact (answers_sound _ _ run 0 sampleSettings (sampleRequest goldenFrame) rfl response
    (threads_of_answerOf answered)).1 (Or.inr status)

/--
A repetition of a request, with another content type, loads the receipt of the first before that is
accepted, and rejects it after that; then the first marks its job and is answered.
-/
def overtakenRepetitionSchedule : List Event :=
  [.tick 1784203201000000, .start 0 (.gateway sampleSettings (sampleRequest goldenFrame)),
    .act 0 1 .none, .act 0 1 .none,
    .start 1 (.gateway sampleSettings
      { sampleRequest goldenFrame with contentType := some "text/plain" }),
    .act 1 3 .none, .act 1 3 .none, .act 1 3 .none,
    .act 0 2 .none, .act 1 3 .none, .act 0 2 .none, .act 0 2 .none]

/-- The first request is answered with 202 when its receipt is rejected already. -/
theorem answered_delivery_rejected :
    ∃ config, Relation.ReflTransGen GroundStep GroundConfig.initial config ∧
      (answerOf config 0).map (·.statusCode) = some 202 ∧
      ¬Durable config.state.database goldenFrame := by
  have verdicts : (GroundConfig.after overtakenRepetitionSchedule).state.database.receipts.rows.map
      (·.validationStatus) = [.rejected] := by decide +kernel
  refine ⟨_, GroundConfig.after_run overtakenRepetitionSchedule, by decide +kernel, ?_⟩
  rintro ⟨receipt, member, -, status, -⟩
  -- The only receipt is the rejected one.
  have rejected : receipt.validationStatus = .rejected :=
    List.mem_singleton.mp (verdicts ▸ List.mem_map_of_mem member)
  rw [rejected] at status
  simp at status

end Cislunar

import Cislunar.Foundation.Fallible
import Cislunar.Proofs.Services.Fresh
import Cislunar.Proofs.Telemetry.Jobs
import Cislunar.Proofs.Telemetry.Queue

/-!
What the tables and the queue have to do with each other, and how one step keeps it.

Redis learns of a job after the database and forgets it after the database has recorded its end; the
references therefore never disagree with the jobs, whichever process acts next.
-/

namespace Cislunar

open Foundation

/-- What a request whose connection may fail leaves and answers. -/
theorem Fault.apply_cases {α σ : Type} {fault : Fault} {unreachable : Failure}
    {outcome : Except Failure α × σ} {before after : σ} {reply : Except Failure α}
    (applied : fault.apply unreachable outcome before = (reply, after)) :
    (after = before ∨ after = outcome.2) ∧
      (reply = .error unreachable ∨ after = outcome.2 ∧ reply = outcome.1) := by
  -- A fault before the request leaves the state, one after it loses the answer only.
  cases fault with
  | none =>
    subst applied
    exact ⟨Or.inr rfl, Or.inr ⟨rfl, rfl⟩⟩
  | before =>
    obtain ⟨rfl, rfl⟩ := Prod.mk.inj applied
    exact ⟨Or.inl rfl, Or.inl rfl⟩
  | after =>
    obtain ⟨rfl, rfl⟩ := Prod.mk.inj applied
    exact ⟨Or.inr rfl, Or.inl rfl⟩

namespace Ground
variable {uuid4 : Nat → UUID} {fault : Fault} {ground after : Ground}

/-- What a request to the tables leaves and answers, whether its connection holds or not. -/
theorem database_cases {α : Type} {outcome : Except StorageError α × Database}
    {reply : Except Failure α}
    (applied : fault.apply (.storage .database)
      (outcome.1.mapError .storage, { ground with database := outcome.2 }) ground =
        (reply, after)) :
    (after.database = ground.database ∨ after.database = outcome.2) ∧
      (reply = .error (.storage .database) ∨
        after.database = outcome.2 ∧ reply = outcome.1.mapError .storage) := by
  -- The request reaches the tables or does not, and its answer may be lost.
  obtain ⟨reached, answered⟩ := Fault.apply_cases applied
  exact ⟨reached.imp (congrArg database) (congrArg database),
    answered.imp_right fun ⟨same, reply⟩ => ⟨congrArg database same, reply⟩⟩

/-- What a repository request does to the tables and answers, whether its connection holds or not. -/
theorem perform_repository {call : RepoCall} {held : Held} {reply : Except Failure call.Reply}
    (performed : ground.perform uuid4 fault (.repository call held) = (reply, after)) :
    (after.database = ground.database ∨
      after.database = (call.execHolding ⟨uuid4, ground.clock⟩ held ground.database).2) ∧
    (reply = .error (.storage .database) ∨
      after.database = (call.execHolding ⟨uuid4, ground.clock⟩ held ground.database).2 ∧
      reply = (call.execHolding ⟨uuid4, ground.clock⟩ held ground.database).1.mapError .storage) :=
  database_cases performed

/-- A repository request that is answered is an uninterrupted call. -/
theorem exec_of_perform {call : RepoCall} {held : Held} {value : call.Reply}
    (performed : ground.perform uuid4 fault (.repository call held) = (.ok value, after)) :
    call.execHolding ⟨uuid4, ground.clock⟩ held ground.database = (.ok value, after.database) := by
  -- A reply that is a value was not lost on the way.
  rcases (perform_repository performed).2 with lost | ⟨reached, answered⟩
  · cases lost
  · exact Prod.ext (of_mapError_eq_ok answered.symm) reached.symm

/-- What a repository request on the rows does to the tables and answers. -/
theorem performFresh_repository {call : RepoCall} {held : Held} {reply : Except Failure call.Reply}
    (performed : ground.performFresh uuid4 fault (.repository call held) = (reply, after)) :
    (after.database = ground.database ∨
      after.database = (call.exec ⟨uuid4, ground.clock⟩ ground.database).2) ∧
    (reply = .error (.storage .database) ∨
      after.database = (call.exec ⟨uuid4, ground.clock⟩ ground.database).2 ∧
      reply = (call.exec ⟨uuid4, ground.clock⟩ ground.database).1.mapError .storage) :=
  database_cases performed

/-- A repository request on the rows that is answered is an uninterrupted call. -/
theorem exec_of_performFresh {call : RepoCall} {held : Held} {value : call.Reply}
    (performed : ground.performFresh uuid4 fault (.repository call held) = (.ok value, after)) :
    call.exec ⟨uuid4, ground.clock⟩ ground.database = (.ok value, after.database) := by
  -- A reply that is a value was not lost on the way.
  rcases (performFresh_repository performed).2 with lost | ⟨reached, answered⟩
  · cases lost
  · exact Prod.ext (of_mapError_eq_ok answered.symm) reached.symm

/-- What a queue request does to the keys and answers, whether its connection holds or not. -/
theorem perform_queue {call : QueueCall} {reply : Except Failure call.Reply}
    (performed : ground.perform uuid4 fault (.queue call) = (reply, after)) :
    (after = ground ∨ after = { ground with queue := (call.exec ground.queue).2 }) ∧
    (reply = .error (.queue .redis) ∨
      after = { ground with queue := (call.exec ground.queue).2 } ∧
      reply = (call.exec ground.queue).1.mapError .queue) :=
  Fault.apply_cases performed

/-- A served repository call on current objects has the effect of the call. -/
theorem serve_repository {uuid4 : Nat → UUID} {ground : Ground} {call : RepoCall} {held : Held}
    {reply : Except StorageError call.Reply} {database : Database}
    (current : held.isCurrent ground.database = true)
    (outcome : call.exec ⟨uuid4, ground.clock⟩ ground.database = (reply, database)) :
    serve uuid4 (.repository call held) ground =
      (reply.mapError .storage, { ground with database := database }) := by
  -- The object held is current, so the call sees the tables.
  rw [serve, perform, call.execHolding_current _ current, outcome]
  rfl

/-- A served queue operation has the effect of the operation. -/
theorem serve_queue {uuid4 : Nat → UUID} {ground : Ground} {call : QueueCall}
    {reply : Except QueueError call.Reply} {queue : TelemetryQueue}
    (outcome : call.exec ground.queue = (reply, queue)) :
    serve uuid4 (.queue call) ground =
      (reply.mapError .queue, { ground with queue := queue }) := by
  rw [serve, perform, outcome]
  rfl

/-- The database has a job for a packet. -/
def HasJob (jobId : UUID) (packetId : String) (ground : Ground) : Prop :=
  ∃ job ∈ ground.database.jobs, job.jobId = jobId ∧ job.packetId = packetId

/-- The database has a job in a state. -/
def JobIn (state : ProcessingJobState) (jobId : UUID) (ground : Ground) : Prop :=
  ∃ job ∈ ground.database.jobs, job.jobId = jobId ∧ job.state = state

/-- A job has no other state than that of its row. -/
theorem not_jobIn_of_mem {ground : Ground} {job : TelemetryProcessingJob} {jobId : UUID}
    {state : ProcessingJobState} (member : job ∈ ground.database.jobs) (key : job.jobId = jobId)
    (other : job.state ≠ state) : ¬ground.JobIn state jobId := by
  -- Keys are unique, so the two rows are one, and it has one state.
  rintro ⟨row, among, same, reached⟩
  rw [Table.eq_of_key among member (same.trans key.symm)] at reached
  exact other reached

/-- The database has a receipt with a body. -/
def HasReceipt (receiptId : UUID) (rawBody : Bytes) (ground : Ground) : Prop :=
  ∃ receipt ∈ ground.database.receipts, receipt.receiptId = receiptId ∧ receipt.rawBody = rawBody

/-- A job has its reference in one of the lists, unless it is over. -/
def Listed (jobId : UUID) (ground : Ground) : Prop :=
  (∃ message ∈ ground.queue.references, message.jobId = jobId) ∨ ground.JobIn .complete jobId

/-- A body was decoded to some values, at a time that has passed. -/
def Decoded (rawBody : Bytes) (values : DecodedTelemetryValues) (ground : Ground) : Prop :=
  ∃ time frame, time ≤ ground.clock ∧ decodeTelemetry zlibCrc32 rawBody (.utc time) = .ok frame ∧
    telemetryValues frame = values

/-- The database has a receipt with a body that was settled with a packet. -/
def SettledAs (rawBody : Bytes) (packetId : String) (ground : Ground) : Prop :=
  ∃ receipt ∈ ground.database.receipts, receipt.rawBody = rawBody ∧
    (receipt.validationStatus = .accepted ∨ receipt.validationStatus = .duplicate) ∧
    receipt.logicalPacketId = some packetId

/-- The job of a packet has reached the queue. -/
def QueuedFor (packetId : String) (ground : Ground) : Prop :=
  ∃ job ∈ ground.database.jobs, job.packetId = packetId ∧ job.state ≠ .pendingQueue

/-- A body was settled with a packet whose job has reached the queue. -/
def Delivered (rawBody : Bytes) (ground : Ground) : Prop :=
  ∃ packetId, ground.SettledAs rawBody packetId ∧ ground.QueuedFor packetId

/-- A later state: rows develop, final states stay, and references go only with complete jobs. -/
structure Later (before after : Ground) : Prop where
  clock : before.clock ≤ after.clock
  database : Extends before.database after.database
  failed : ∀ jobId, before.JobIn .failed jobId → after.JobIn .failed jobId
  references : ∀ message ∈ before.queue.references,
    message ∈ after.queue.references ∨ after.JobIn .complete message.jobId

variable {first second third : Ground}

/-- A complete job stays complete. -/
theorem Later.complete (later : Later first second) {jobId : UUID}
    (done : first.JobIn .complete jobId) : second.JobIn .complete jobId := by
  -- The job develops, and completion is never undone.
  obtain ⟨job, member, key, state⟩ := done
  obtain ⟨next, among, develops⟩ := later.database.jobs job member
  exact ⟨next, among, develops.jobId.trans key, develops.complete state⟩

/-- A state is later than itself. -/
theorem Later.refl (ground : Ground) : Later ground ground where
  clock := le_rfl
  database := .refl _
  failed _ := id
  references _ := Or.inl

/-- Time passes in several steps. -/
theorem Later.trans (early : Later first second) (late : Later second third) :
    Later first third where
  clock := early.clock.trans late.clock
  database := early.database.trans late.database
  failed jobId failed := late.failed jobId (early.failed jobId failed)
  references message listed := by
    -- A reference that was dropped on the way had a complete job, which stays complete.
    rcases early.references message listed with still | done
    · exact late.references message still
    · exact Or.inr (late.complete done)

/-- A job stays the job of its packet. -/
theorem Later.hasJob (later : Later first second) {jobId : UUID} {packetId : String}
    (held : first.HasJob jobId packetId) : second.HasJob jobId packetId := by
  -- The job develops, and it keeps its identifier and its packet.
  obtain ⟨job, member, key, named⟩ := held
  obtain ⟨next, among, develops⟩ := later.database.jobs job member
  exact ⟨next, among, develops.jobId.trans key, develops.packetId.trans named⟩

/-- A receipt keeps its body. -/
theorem Later.hasReceipt (later : Later first second) {receiptId : UUID} {rawBody : Bytes}
    (held : first.HasReceipt receiptId rawBody) : second.HasReceipt receiptId rawBody := by
  -- The receipt develops, and it keeps its identifier and its bytes.
  obtain ⟨receipt, member, key, same⟩ := held
  obtain ⟨next, among, develops⟩ := later.database.receipts receipt member
  exact ⟨next, among, develops.receiptId.trans key, develops.rawBody.trans same⟩

/-- A reference stays until its job is over. -/
theorem Later.listed (later : Later first second) {jobId : UUID} (held : first.Listed jobId) :
    second.Listed jobId := by
  -- A reference is dropped only for a job that is complete, and completion lasts.
  rcases held with ⟨message, listed, rfl⟩ | done
  · rcases later.references message listed with still | done
    · exact Or.inl ⟨message, still, rfl⟩
    · exact Or.inr done
  · exact Or.inr (later.complete done)

/-- What was decoded once stays decoded. -/
theorem Later.decoded (later : Later first second) {rawBody : Bytes}
    {values : DecodedTelemetryValues} (held : first.Decoded rawBody values) :
    second.Decoded rawBody values := by
  -- Only the clock matters, and it does not go back.
  obtain ⟨time, frame, past, decodes, same⟩ := held
  exact ⟨time, frame, past.trans later.clock, decodes, same⟩

/-- A receipt keeps its verdict. -/
theorem Later.settledAs (later : Later first second) {rawBody : Bytes} {packetId : String}
    (held : first.SettledAs rawBody packetId) : second.SettledAs rawBody packetId := by
  -- A settled receipt keeps what it says about its packet.
  obtain ⟨receipt, member, same, status, named⟩ := held
  have settled : receipt.validationStatus ≠ .pending := by
    rcases status with state | state <;> simp [state]
  obtain ⟨next, among, develops⟩ := later.database.receipts receipt member
  exact ⟨next, among, develops.rawBody.trans same, (develops.validationStatus settled).symm ▸ status,
    (develops.logicalPacketId settled).trans named⟩

/-- A job that has reached the queue has done so for good. -/
theorem Later.queuedFor (later : Later first second) {packetId : String}
    (held : first.QueuedFor packetId) : second.QueuedFor packetId := by
  -- A job that was queued or has gone further does not become new again.
  obtain ⟨job, member, named, state⟩ := held
  obtain ⟨next, among, develops⟩ := later.database.jobs job member
  exact ⟨next, among, develops.packetId.trans named, develops.queued state⟩

/-- What is delivered stays delivered. -/
theorem Later.delivered (later : Later first second) {rawBody : Bytes}
    (held : first.Delivered rawBody) : second.Delivered rawBody := by
  -- Both halves are facts that last.
  obtain ⟨packetId, settled, queued⟩ := held
  exact ⟨packetId, later.settledAs settled, later.queuedFor queued⟩

end Ground

open Ground

/-- The tables and the queue agree. -/
structure CrossStore (ground : Ground) : Prop where
  reachable : Reachable ground.database
  queue : QueueConsistent ground.queue
  /-- A reference leads to the job of its packet. -/
  job : ∀ message ∈ ground.queue.references, ground.HasJob message.jobId message.packetId
  /-- A job that has been queued has a reference until it is complete. -/
  present : ∀ job ∈ ground.database.jobs, job.state ≠ .pendingQueue → job.state ≠ .complete →
    ∃ message ∈ ground.queue.references, message.jobId = job.jobId
  /-- The failed list refers to failed jobs. -/
  buried : ∀ message ∈ ground.queue.failed, ground.JobIn .failed message.jobId
  /-- The values of a packet were decoded from the bytes of its source. -/
  decoded : ∀ packet ∈ ground.database.packets, ∃ rawBody,
    ground.HasReceipt packet.sourceReceiptId rawBody ∧ ground.Decoded rawBody packet.values

/-- Empty stores agree. -/
theorem CrossStore.empty : CrossStore {} where
  reachable := .empty
  queue := .empty
  job message listed := by cases listed
  present job member := absurd member (Table.not_mem_empty job)
  buried message listed := by cases listed
  decoded packet member := absurd member (Table.not_mem_empty packet)

section Steps
variable {ground : Ground}

/-- Time passes over an agreement. -/
theorem CrossStore.tick (cross : CrossStore ground) {after : Ground} (ticks : Ticks ground after) :
    CrossStore after ∧ Later ground after := by
  -- Nothing but the clock moves, and what was past stays past.
  obtain ⟨clock, forward, rfl⟩ := ticks
  have later : Later ground { ground with clock := clock } := ⟨forward, .refl _, fun _ => id,
    fun _ => Or.inl⟩
  refine ⟨{ cross with decoded := fun packet member => ?_ }, later⟩
  obtain ⟨rawBody, source, decoded⟩ := cross.decoded packet member
  exact ⟨rawBody, source, later.decoded decoded⟩

/-- A call leads to a later state. -/
theorem CrossStore.later_call (cross : CrossStore ground) (env : Surroundings) (call : RepoCall) :
    Later ground { ground with database := (call.exec env ground.database).2 } where
  clock := le_rfl
  database := (call.exec_effect env ground.database).extends
  failed jobId := by
    rintro ⟨job, member, key, state⟩
    exact ⟨job, call.failed_kept cross.reachable.ledger env member state, key, state⟩
  references _ := Or.inl

/-- A call keeps the agreement when newly queued jobs are listed and new packets are decoded. -/
theorem CrossStore.call (cross : CrossStore ground) (env : Surroundings) (call : RepoCall)
    (queued : ∀ job ∈ ground.database.jobs, job.state = .pendingQueue →
      job ∈ (call.exec env ground.database).2.jobs ∨
        ∃ message ∈ ground.queue.references, message.jobId = job.jobId)
    (accepted : ∀ packet ∈ (call.exec env ground.database).2.packets,
      packet ∈ ground.database.packets ∨ ∃ rawBody,
        ground.HasReceipt packet.sourceReceiptId rawBody ∧ ground.Decoded rawBody packet.values) :
    CrossStore { ground with database := (call.exec env ground.database).2 } where
  reachable := .call env call cross.reachable
  queue := cross.queue
  job message listed := (cross.later_call env call).hasJob (cross.job message listed)
  present job member unqueued incomplete := by
    rcases call.job_origin cross.reachable.ledger env member with
      old | new | done | ⟨old, stored, key, state⟩
    · exact cross.present job old unqueued incomplete
    · exact absurd new unqueued
    · exact absurd done incomplete
    · rw [← key]
      by_cases waiting : old.state = .pendingQueue
      · -- The job was rewritten, so it must have been marked as queued.
        rcases queued old stored waiting with kept | listed
        · rw [Table.eq_of_key kept member key] at waiting
          exact absurd waiting unqueued
        · exact listed
      · exact cross.present old stored waiting state
  buried message listed := (cross.later_call env call).failed _ (cross.buried message listed)
  decoded packet member := by
    have later := cross.later_call env call
    have before : ∃ rawBody, ground.HasReceipt packet.sourceReceiptId rawBody ∧
        ground.Decoded rawBody packet.values :=
      (accepted packet member).elim (cross.decoded packet) id
    obtain ⟨rawBody, source, decoded⟩ := before
    exact ⟨rawBody, later.hasReceipt source, later.decoded decoded⟩

/-- A queue step keeps the agreement when it adds known jobs and drops complete ones only. -/
theorem CrossStore.requeue (cross : CrossStore ground) {queue : TelemetryQueue}
    (consistent : QueueConsistent queue)
    (added : ∀ message ∈ queue.references,
      message ∈ ground.queue.references ∨ ground.HasJob message.jobId message.packetId)
    (dropped : ∀ message ∈ ground.queue.references,
      message ∈ queue.references ∨ ground.JobIn .complete message.jobId)
    (buried : ∀ message ∈ queue.failed,
      message ∈ ground.queue.failed ∨ ground.JobIn .failed message.jobId) :
    CrossStore { ground with queue := queue } ∧ Later ground { ground with queue := queue } where
  left := {
    reachable := cross.reachable
    queue := consistent
    job := fun message listed => (added message listed).elim (cross.job message) id
    -- The reference of a queued job is dropped only when the job is complete.
    present := by
      intro job member unqueued incomplete
      obtain ⟨message, listed, key⟩ := cross.present job member unqueued incomplete
      rcases dropped message listed with still | ⟨done, among, same, state⟩
      · exact ⟨message, still, key⟩
      · rw [Table.eq_of_key among member (same.trans key)] at state
        exact absurd state incomplete
    buried := fun message listed => (buried message listed).elim (cross.buried message) id
    decoded := cross.decoded }
  right := ⟨le_rfl, .refl _, fun _ => id, dropped⟩

/-- Moving entries keeps the agreement when only failed jobs are buried. -/
theorem CrossStore.rearrange (cross : CrossStore ground) {queue : TelemetryQueue}
    (moved : Rearranged ground.queue queue)
    (buried : ∀ message ∈ queue.failed,
      message ∈ ground.queue.failed ∨ ground.JobIn .failed message.jobId) :
    CrossStore { ground with queue := queue } ∧ Later ground { ground with queue := queue } :=
  cross.requeue (moved.consistent cross.queue)
    (fun _ listed => Or.inl (moved.references.mem_iff.mp listed))
    (fun _ listed => Or.inl (moved.references.mem_iff.mpr listed)) buried

end Steps

/-- A call that accepts a packet. -/
def RepoCall.isAccept : RepoCall → Bool
  | acceptPacketAndCreateJob _ _ _ _ => true
  | _ => false

/-- A call that stores a result. -/
def RepoCall.isComplete : RepoCall → Bool
  | completeProcessingJob _ _ _ _ => true
  | _ => false

section Tables
variable {db : Database}

/-- Recording a delivery adds no packet and no result. -/
theorem RecordOutcome.tables {delivery : Delivery} {receiptId : UUID}
    {outcome : Except StorageError DeliveryRecordResult × Database}
    (happened : RecordOutcome db delivery receiptId outcome) :
    outcome.2.packets = db.packets ∧ outcome.2.processed = db.processed := by
  -- No outcome of the call adds a packet or a result.
  cases happened <;> exact ⟨rfl, rfl⟩

/-- Rejecting a delivery adds no packet and no result. -/
theorem RejectOutcome.tables {receiptId : UUID} {reason : String}
    {parsedIdentifiers : Option JsonObject} {actorIdentity : String}
    {outcome : Except StorageError DeliveryRecordResult × Database}
    (happened : RejectOutcome db receiptId reason parsedIdentifiers actorIdentity outcome) :
    outcome.2.packets = db.packets ∧ outcome.2.processed = db.processed := by
  -- No outcome of the call adds a packet or a result.
  cases happened <;> exact ⟨rfl, rfl⟩

/-- Marking a job adds no packet and no result. -/
theorem QueueOutcome.tables {jobId : UUID} {queueMessageId actorIdentity : String}
    {outcome : Except StorageError Bool × Database}
    (happened : QueueOutcome db jobId queueMessageId actorIdentity outcome) :
    outcome.2.packets = db.packets ∧ outcome.2.processed = db.processed := by
  -- No outcome of the call adds a packet or a result.
  cases happened <;> exact ⟨rfl, rfl⟩

/-- Claiming a job adds no packet and no result. -/
theorem ClaimOutcome.tables {jobId : UUID} {workerId : String} {leaseSeconds : Int} {now : Time}
    {outcome : Except StorageError (Option TelemetryWorkItem) × Database}
    (happened : ClaimOutcome db jobId workerId leaseSeconds now outcome) :
    outcome.2.packets = db.packets ∧ outcome.2.processed = db.processed := by
  -- No outcome of the call adds a packet or a result.
  cases happened <;> exact ⟨rfl, rfl⟩

/-- Completing a job adds no packet. -/
theorem CompleteOutcome.packets {jobId : UUID} {result : ProcessingResultValues}
    {workerId : String} {completionTime : Time}
    {outcome : Except StorageError ProcessedTelemetry × Database}
    (happened : CompleteOutcome db jobId result workerId completionTime outcome) :
    outcome.2.packets = db.packets := by
  -- A completion adds a result and no packet.
  cases happened <;> rfl

/-- Failing a job adds no packet and no result. -/
theorem FailOutcome.tables {jobId : UUID} {workerId reason : String} {temporary : Bool}
    {baseBackoffSeconds : Int} {failureTime : Time}
    {outcome : Except StorageError ProcessingFailureResult × Database}
    (happened : FailOutcome db jobId workerId reason temporary baseBackoffSeconds failureTime
      outcome) : outcome.2.packets = db.packets ∧ outcome.2.processed = db.processed := by
  -- No outcome of the call adds a packet or a result.
  cases happened <;> exact ⟨rfl, rfl⟩

/-- An acceptance adds at most the packet of its receipt. -/
theorem AcceptOutcome.packet_origin {receiptId : UUID} {values : DecodedTelemetryValues}
    {jobId : UUID} {options : AcceptanceOptions}
    {outcome : Except StorageError PacketAcceptanceResult × Database}
    (happened : AcceptOutcome db receiptId values jobId options outcome)
    {packet : LogicalTelemetryPacket} (member : packet ∈ outcome.2.packets) :
    packet ∈ db.packets ∨ packet.sourceReceiptId = receiptId ∧ packet.values = values ∧
      db.packetBySource values.sourceKey = none ∧
      ∃ receipt, db.receipts.get? receiptId = some receipt ∧
        receipt.validationStatus = .pending := by
  -- Only a pending receipt is settled, and only with a packet whose source key is unused.
  cases happened with
  | missing | replayed | refused => exact Or.inl member
  | settled found pending settles =>
    cases settles with
    | duplicated | conflicted | stateConflicted | integrity => exact Or.inl member
    | accepted unused _ _ packetAdmitted =>
      rcases (Table.mem_insert packetAdmitted.1).mp member with old | rfl
      · exact Or.inl old
      · exact Or.inr ⟨(Table.get?_eq_some.mp found).2, rfl, unused, _, found, pending⟩

/-- An acceptance adds no result. -/
theorem AcceptOutcome.processed {receiptId : UUID} {values : DecodedTelemetryValues}
    {jobId : UUID} {options : AcceptanceOptions}
    {outcome : Except StorageError PacketAcceptanceResult × Database}
    (happened : AcceptOutcome db receiptId values jobId options outcome) :
    outcome.2.processed = db.processed := by
  -- Only a pending receipt is settled, and settling it stores no result.
  cases happened with
  | missing | replayed | refused => rfl
  | settled found pending settles => cases settles <;> rfl

/-- Only an acceptance adds packets, and only a completion adds results. -/
theorem RepoCall.tables_kept (env : Surroundings) (call : RepoCall) :
    (call.isAccept = false → (call.exec env db).2.packets = db.packets) ∧
      (call.isComplete = false → (call.exec env db).2.processed = db.processed) := by
  -- A guard that fails leaves the database as it was, like every call that only reads.
  have both : ∀ {after : Database}, after.packets = db.packets ∧ after.processed = db.processed →
      (call.isAccept = false → after.packets = db.packets) ∧
        (call.isComplete = false → after.processed = db.processed) :=
    fun same => ⟨fun _ => same.1, fun _ => same.2⟩
  cases call with
  | recordDelivery delivery receiptId =>
    rcases recordDelivery_serially delivery receiptId env.uuid4 db with ⟨_, failed⟩ | ⟨_, happened⟩
    · exact both ⟨congrArg (·.2.packets) failed, congrArg (·.2.processed) failed⟩
    · exact both happened.tables
  | rejectDelivery receiptId reason parsedIdentifiers actorIdentity =>
    exact both (rejectDelivery_exec env db receiptId reason parsedIdentifiers actorIdentity).tables
  | acceptPacketAndCreateJob receiptId values maxAttempts actorIdentity =>
    refine ⟨nofun, fun _ => ?_⟩
    rcases acceptPacketAndCreateJob_serially receiptId values
      { maxAttempts := maxAttempts, actorIdentity := actorIdentity, now := env.now } env.uuid4 db
      with ⟨_, failed⟩ | ⟨_, -, _, happened⟩
    · exact congrArg (·.2.processed) failed
    · exact happened.processed
  | markJobQueued jobId queueMessageId actorIdentity =>
    exact both (markJobQueued_exec env db jobId queueMessageId actorIdentity).tables
  | claimProcessingJob jobId workerId leaseSeconds =>
    rcases claimProcessingJob_exec env db jobId workerId leaseSeconds with ⟨_, failed⟩ | ⟨-, happened⟩
    · exact both ⟨congrArg (·.2.packets) failed, congrArg (·.2.processed) failed⟩
    · exact both happened.tables
  | completeProcessingJob jobId result workerId processedAt =>
    exact ⟨fun _ => (completeProcessingJob_exec env db jobId result workerId processedAt).packets,
      nofun⟩
  | failProcessingAttempt jobId workerId reason temporary baseBackoffSeconds now =>
    rcases failProcessingAttempt_exec env db jobId workerId reason temporary baseBackoffSeconds now
      with ⟨_, failed⟩ | happened
    · exact both ⟨congrArg (·.2.packets) failed, congrArg (·.2.processed) failed⟩
    · exact both happened.tables
  | recordAuditEvent => exact both ⟨rfl, rfl⟩
  | pendingQueueJobs | recoverableQueueJobs | getDelivery | getPacket | getProcessed | getJob
  | getJobForPacket | listAuditEvents | processingQueueDepth =>
    rw [RepoCall.read_exec]
    · exact both ⟨rfl, rfl⟩
    · rfl

end Tables

end Cislunar

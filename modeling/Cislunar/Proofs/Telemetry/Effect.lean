import Cislunar.Proofs.Telemetry.Storage
import Cislunar.Telemetry.Repository

/-!
What a repository call can do to the tables, whichever call it is.

Every invariant of the tables is proved once against this relation.
-/

namespace Cislunar

open Foundation

/-- The databases one call can leave. -/
inductive Effect (db : Database) : Database → Prop where
  | unchanged : Effect db db
  | audited (event : TelemetryAuditEvent) :
      Effect db { db with auditEvents := db.auditEvents ++ [event] }
  | anonymous {delivery : Delivery} {receiptId : UUID}
      (unnamed : delivery.canonicalRequestId = none)
      (admitted : db.AdmitsReceipt (delivery.receipt receiptId none))
      (event : TelemetryAuditEvent) :
      Effect db (db.addReceipt (delivery.receipt receiptId none) event)
  | first {delivery : Delivery} {receiptId requestId : UUID}
      (named : delivery.canonicalRequestId = some requestId)
      (admitted : db.AdmitsReceipt (delivery.receipt receiptId none))
      (unowned : db.AdmitsIdentity ⟨requestId, receiptId, sha256Hex delivery.rawBody⟩)
      (event : TelemetryAuditEvent) :
      Effect db (db.addOwner (delivery.receipt receiptId none)
        ⟨requestId, receiptId, sha256Hex delivery.rawBody⟩ event)
  | reused {delivery : Delivery} {receiptId : UUID} {owner : TelemetryRequestIdentity}
      {original : TelemetryDeliveryReceipt}
      (named : delivery.canonicalRequestId = some owner.requestId) (owned : owner ∈ db.identities)
      (present : original ∈ db.receipts) (link : original.receiptId = owner.firstReceiptId)
      (different : ¬(owner.bodySha256 = sha256Hex delivery.rawBody ∧
        original.rawBody = delivery.rawBody))
      (admitted : db.AdmitsReceipt (delivery.receipt receiptId (some original)))
      (event : TelemetryAuditEvent) :
      Effect db (db.addReceipt (delivery.receipt receiptId (some original)) event)
  | rejected {receipt : TelemetryDeliveryReceipt} (member : receipt ∈ db.receipts)
      (status : receipt.validationStatus = .pending) (reason : String)
      (parsedIdentifiers : Option JsonObject) (event : TelemetryAuditEvent) :
      Effect db (db.settle (rejectedReceipt receipt reason parsedIdentifiers) event)
  | duplicated {receipt origin : TelemetryDeliveryReceipt} {values : DecodedTelemetryValues}
      {existing : LogicalTelemetryPacket} (member : receipt ∈ db.receipts)
      (status : receipt.validationStatus = .pending) (stored : existing ∈ db.packets)
      (key : existing.values.sourceKey = values.sourceKey)
      (source : db.receipts.get? existing.sourceReceiptId = some origin)
      (digest : existing.rawSha256 = receipt.bodySha256) (same : origin.rawBody = receipt.rawBody)
      (event : TelemetryAuditEvent) :
      Effect db (db.settle (duplicateReceipt receipt values existing) event)
  | conflicted {receipt : TelemetryDeliveryReceipt} {values : DecodedTelemetryValues}
      {existing : LogicalTelemetryPacket} (member : receipt ∈ db.receipts)
      (status : receipt.validationStatus = .pending) (stored : existing ∈ db.packets)
      (key : existing.values.sourceKey = values.sourceKey)
      (different : ∀ origin, db.receipts.get? existing.sourceReceiptId = some origin →
        existing.rawSha256 = receipt.bodySha256 → origin.rawBody ≠ receipt.rawBody)
      (event : TelemetryAuditEvent) :
      Effect db (db.settle (sequenceConflictReceipt receipt values existing) event)
  | stateConflicted {receipt : TelemetryDeliveryReceipt} {values : DecodedTelemetryValues}
      {state : TelemetrySequenceState} (member : receipt ∈ db.receipts)
      (status : receipt.validationStatus = .pending)
      (range : 0 ≤ values.sequenceNumber ∧ values.sequenceNumber ≤ maxUint32)
      (unused : db.packetBySource values.sourceKey = none)
      (tracked : db.states.get? (values.payloadId, values.bootId) = some state)
      (onMark : forwardDistance values.sequenceNumber state.highWaterSequence = 0)
      (event : TelemetryAuditEvent) :
      Effect db (db.settle (stateConflictReceipt receipt values) event)
  | accepted {receipt : TelemetryDeliveryReceipt} {values : DecodedTelemetryValues}
      {sequenceState : Option TelemetrySequenceState} {disposition : PacketDisposition}
      {missingBefore : Int} {jobId : UUID} {options : AcceptanceOptions}
      (member : receipt ∈ db.receipts) (status : receipt.validationStatus = .pending)
      (tracked : db.states.get? (values.payloadId, values.bootId) = sequenceState)
      (position : sequencePosition values.sequenceNumber sequenceState =
        some (disposition, missingBefore))
      (packetAdmitted : db.AdmitsPacket (newPacket receipt values disposition missingBefore))
      (stateAdmitted : sequenceState = none → db.AdmitsState (firstState values missingBefore))
      (jobAdmitted : db.AdmitsJob (newJob jobId values.packetId options.maxAttempts options.now)) :
      Effect db
        (db.addPacket receipt values sequenceState disposition missingBefore jobId options)
  | queued {job : TelemetryProcessingJob} (member : job ∈ db.jobs)
      (status : job.state = .pendingQueue ∨ job.state = .retryWait)
      (queueMessageId actorIdentity : String) :
      Effect db (db.queue job queueMessageId actorIdentity)
  | closed {job : TelemetryProcessingJob} {processed : ProcessedTelemetry} (member : job ∈ db.jobs)
      (done : db.processed.get? job.packetId = some processed) :
      Effect db (db.move (closedJob job processed) [])
  | claimed {job : TelemetryProcessingJob} (member : job ∈ db.jobs)
      (undone : db.processed.get? job.packetId = none) {now : Time}
      (free : isClaimable job now = true) (workerId : String) (leaseSeconds : Int)
      (event : TelemetryAuditEvent) :
      Effect db (db.move (claimedJob job workerId leaseSeconds now) [event])
  | completed {job : TelemetryProcessingJob} {result : ProcessingResultValues} {workerId : String}
      {completionTime : Time} (member : job ∈ db.jobs) (status : job.state = .processing)
      (owned : job.claimedBy = some workerId)
      (admitted : db.AdmitsProcessed (processedRow job result completionTime)) :
      Effect db (db.complete job result workerId completionTime)
  | failed {job : TelemetryProcessingJob} (member : job ∈ db.jobs)
      (status : job.state = .processing) (reason : String) (temporary : Bool)
      (baseBackoffSeconds : Int) (failureTime : Time) (event : TelemetryAuditEvent) :
      Effect db
        (db.move (jobAfterFailure job reason temporary baseBackoffSeconds failureTime) [event])

section
variable {db : Database}

/-- The effect of `record_delivery`. -/
theorem RecordOutcome.effect {delivery : Delivery} {receiptId : UUID}
    {outcome : Except StorageError DeliveryRecordResult × Database}
    (happened : RecordOutcome db delivery receiptId outcome) : Effect db outcome.2 := by
  -- A replay and the errors write nothing; the other outcomes add a receipt.
  cases happened with
  | anonymous unnamed admitted => exact .anonymous unnamed admitted _
  | first named admitted unowned => exact .first named admitted unowned _
  | reused named owned present link different admitted =>
    exact .reused named owned present link different admitted _
  | replay | integrity | dangling => exact .unchanged

/-- The effect of `reject_delivery`. -/
theorem RejectOutcome.effect {receiptId : UUID} {reason : String}
    {parsedIdentifiers : Option JsonObject} {actorIdentity : String}
    {outcome : Except StorageError DeliveryRecordResult × Database}
    (happened : RejectOutcome db receiptId reason parsedIdentifiers actorIdentity outcome) :
    Effect db outcome.2 := by
  -- Only a receipt that is pending is rejected.
  cases happened with
  | rejected found status => exact .rejected (Table.get?_eq_some.mp found).1 status _ _ _
  | missing | repeated | refused => exact .unchanged

/-- The effect of an acceptance with a sequence number in range. -/
theorem AcceptOutcome.effect {receiptId : UUID} {values : DecodedTelemetryValues} {jobId : UUID}
    {options : AcceptanceOptions} {outcome : Except StorageError PacketAcceptanceResult × Database}
    (range : 0 ≤ values.sequenceNumber ∧ values.sequenceNumber ≤ maxUint32)
    (happened : AcceptOutcome db receiptId values jobId options outcome) : Effect db outcome.2 := by
  -- What a settled receipt writes depends on the packet that is stored under its source key.
  cases happened with
  | missing | replayed | refused => exact .unchanged
  | settled found status settles =>
    have member := (Table.get?_eq_some.mp found).1
    cases settles with
    | duplicated stored key source digest same =>
      exact .duplicated member status stored key source digest same _
    | conflicted stored key different => exact .conflicted member status stored key different _
    | stateConflicted unused tracked onMark =>
      exact .stateConflicted member status range unused tracked onMark _
    | accepted unused tracked position packetAdmitted stateAdmitted jobAdmitted =>
      exact .accepted member status tracked position packetAdmitted stateAdmitted jobAdmitted
    | integrity => exact .unchanged

/-- The effect of `mark_job_queued`. -/
theorem QueueOutcome.effect {jobId : UUID} {queueMessageId actorIdentity : String}
    {outcome : Except StorageError Bool × Database}
    (happened : QueueOutcome db jobId queueMessageId actorIdentity outcome) :
    Effect db outcome.2 := by
  -- Only a job in front of the queue is marked.
  cases happened with
  | queued found status => exact .queued (Table.get?_eq_some.mp found).1 status _ _
  | missing | repeated | renamed | refused => exact .unchanged

/-- The effect of `claim_processing_job`. -/
theorem ClaimOutcome.effect {jobId : UUID} {workerId : String} {leaseSeconds : Int} {now : Time}
    {outcome : Except StorageError (Option TelemetryWorkItem) × Database}
    (happened : ClaimOutcome db jobId workerId leaseSeconds now outcome) :
    Effect db outcome.2 := by
  -- A job whose result is stored is closed instead of claimed.
  cases happened with
  | closed found done status => exact .closed (Table.get?_eq_some.mp found).1 done
  | taken found undone free stored source =>
    exact .claimed (Table.get?_eq_some.mp found).1 undone free _ _ _
  | missing | finished | unavailable | dangling => exact .unchanged

/-- The effect of `complete_processing_job`. -/
theorem CompleteOutcome.effect {jobId : UUID} {result : ProcessingResultValues} {workerId : String}
    {completionTime : Time} {outcome : Except StorageError ProcessedTelemetry × Database}
    (happened : CompleteOutcome db jobId result workerId completionTime outcome) :
    Effect db outcome.2 := by
  -- A result that is stored already closes the job without another row.
  cases happened with
  | closed found done same => exact .closed (Table.get?_eq_some.mp found).1 done
  | completed found undone status owned admitted =>
    exact .completed (Table.get?_eq_some.mp found).1 status owned admitted
  | missing | conflicting | refused | integrity => exact .unchanged

/-- The effect of `fail_processing_attempt`. -/
theorem FailOutcome.effect {jobId : UUID} {workerId reason : String} {temporary : Bool}
    {baseBackoffSeconds : Int} {failureTime : Time}
    {outcome : Except StorageError ProcessingFailureResult × Database}
    (happened : FailOutcome db jobId workerId reason temporary baseBackoffSeconds failureTime
      outcome) : Effect db outcome.2 := by
  -- Only the worker that holds the job writes.
  cases happened with
  | failed found status owned => exact .failed (Table.get?_eq_some.mp found).1 status _ _ _ _ _
  | missing | repeated | refused => exact .unchanged

/-- With arguments that pass the guards one of two attempts gives the outcome. -/
theorem recordDelivery_valid (delivery : Delivery) (receiptId : Option UUID)
    (uuid4 : Nat → UUID) (db : Database) (short : delivery.rawBody.length ≤ maxEvidenceBodyBytes)
    (identified : delivery.peerCertificateIdentity.isEmpty = false) :
    ∃ attempt, RecordOutcome db delivery (receiptId.getD (uuid4 attempt))
      (serially Stmt.exec (recordDelivery delivery receiptId uuid4) db) := by
  -- The second attempt is made when the first one ends with an `IntegrityError`.
  rw [recordDelivery, if_neg (Nat.not_lt.mpr short), if_neg (by simp [identified])]
  obtain ⟨attempt, run⟩ := serially_retryOnce_cases Stmt.exec StorageError.isIntegrity
    (fun attempt => recordDeliveryTransaction delivery (receiptId.getD (uuid4 attempt))) db
  rw [run]
  exact ⟨attempt, recordDelivery_outcome _ _ _⟩

/-- Guards that fail answer with an error, and one of two attempts gives the outcome otherwise. -/
theorem recordDelivery_serially (delivery : Delivery) (receiptId : Option UUID)
    (uuid4 : Nat → UUID) (db : Database) :
    (∃ message, serially Stmt.exec (recordDelivery delivery receiptId uuid4) db =
        (.error (.valueError message), db)) ∨
      ∃ attempt, RecordOutcome db delivery (receiptId.getD (uuid4 attempt))
        (serially Stmt.exec (recordDelivery delivery receiptId uuid4) db) := by
  -- The guards are tried in the order of the source.
  by_cases short : delivery.rawBody.length ≤ maxEvidenceBodyBytes
  · cases identified : delivery.peerCertificateIdentity.isEmpty with
    | false => exact Or.inr (recordDelivery_valid delivery receiptId uuid4 db short identified)
    | true =>
      rw [recordDelivery, if_neg (Nat.not_lt.mpr short), if_pos identified]
      exact Or.inl ⟨_, rfl⟩
  · rw [recordDelivery, if_pos (Nat.lt_of_not_le short)]
    exact Or.inl ⟨_, rfl⟩

/-- With arguments that pass the guards one of two attempts gives the outcome. -/
theorem acceptPacketAndCreateJob_outcome (receiptId : UUID) {values : DecodedTelemetryValues}
    (options : AcceptanceOptions) (uuid4 : Nat → UUID) (db : Database)
    (range : 0 ≤ values.sequenceNumber ∧ values.sequenceNumber ≤ maxUint32)
    (boot : 0 < values.bootId) (attempts : 0 < options.maxAttempts) :
    ∃ attempt, AcceptOutcome db receiptId values (uuid4 attempt) options
      (serially Stmt.exec (acceptPacketAndCreateJob receiptId values options uuid4) db) := by
  -- Past the three guards there are two attempts, as for a delivery.
  rw [acceptPacketAndCreateJob, if_neg (not_not.mpr range), if_neg (by omega), if_neg (by omega)]
  obtain ⟨attempt, run⟩ := serially_retryOnce_cases Stmt.exec StorageError.isIntegrity
    (fun attempt => acceptPacketTransaction receiptId values (uuid4 attempt) options) db
  rw [run]
  exact ⟨attempt, acceptPacket_outcome _ _ _ _ _⟩

/-- Guards that fail answer with an error, and one of two attempts gives the outcome otherwise. -/
theorem acceptPacketAndCreateJob_serially (receiptId : UUID) (values : DecodedTelemetryValues)
    (options : AcceptanceOptions) (uuid4 : Nat → UUID) (db : Database) :
    (∃ message, serially Stmt.exec (acceptPacketAndCreateJob receiptId values options uuid4) db =
        (.error (.valueError message), db)) ∨
      (0 ≤ values.sequenceNumber ∧ values.sequenceNumber ≤ maxUint32) ∧ 0 < options.maxAttempts ∧
      ∃ attempt, AcceptOutcome db receiptId values (uuid4 attempt) options
        (serially Stmt.exec (acceptPacketAndCreateJob receiptId values options uuid4) db) := by
  -- Sequence number, boot identifier and number of attempts are checked in this order.
  by_cases range : 0 ≤ values.sequenceNumber ∧ values.sequenceNumber ≤ maxUint32
  · by_cases boot : 0 < values.bootId
    · by_cases attempts : 0 < options.maxAttempts
      · exact Or.inr ⟨range, attempts,
          acceptPacketAndCreateJob_outcome receiptId options uuid4 db range boot attempts⟩
      · rw [acceptPacketAndCreateJob, if_neg (not_not.mpr range), if_neg (by omega),
          if_pos (by omega)]
        exact Or.inl ⟨_, rfl⟩
    · rw [acceptPacketAndCreateJob, if_neg (not_not.mpr range), if_pos (by omega)]
      exact Or.inl ⟨_, rfl⟩
  · rw [acceptPacketAndCreateJob, if_pos range]
    exact Or.inl ⟨_, rfl⟩

end

section
variable (env : Surroundings) (db : Database)

/-- The outcome of `reject_delivery` as a call. -/
theorem rejectDelivery_exec (receiptId : UUID) (reason : String)
    (parsedIdentifiers : Option JsonObject) (actorIdentity : String) :
    RejectOutcome db receiptId reason parsedIdentifiers actorIdentity
      ((RepoCall.rejectDelivery receiptId reason parsedIdentifiers actorIdentity).exec env db) := by
  -- The call is one transaction that runs alone.
  have happened := rejectDelivery_outcome receiptId reason parsedIdentifiers actorIdentity db
  rwa [← serially_transaction] at happened

/-- The outcome of `mark_job_queued` as a call. -/
theorem markJobQueued_exec (jobId : UUID) (queueMessageId actorIdentity : String) :
    QueueOutcome db jobId queueMessageId actorIdentity
      ((RepoCall.markJobQueued jobId queueMessageId actorIdentity).exec env db) := by
  -- The call is one transaction that runs alone.
  have happened := markJobQueued_outcome jobId queueMessageId actorIdentity db
  rwa [← serially_transaction] at happened

/-- The outcome of `claim_processing_job` as a call with arguments that pass the guards. -/
theorem claimProcessingJob_valid (jobId : UUID) {workerId : String} {leaseSeconds : Int}
    (named : workerId.isEmpty = false) (lease : 0 < leaseSeconds) :
    ClaimOutcome db jobId workerId leaseSeconds env.now
      ((RepoCall.claimProcessingJob jobId workerId leaseSeconds).exec env db) := by
  -- One transaction is left behind the guards, and no second attempt.
  rw [RepoCall.exec, RepoCall.program, Cislunar.claimProcessingJob, if_neg (by simp [named]),
    if_neg (by omega), serially_transaction]
  exact claimProcessingJob_outcome _ _ _ _ _

/-- The outcome of `claim_processing_job` as a call. -/
theorem claimProcessingJob_exec (jobId : UUID) (workerId : String) (leaseSeconds : Int) :
    (∃ message, (RepoCall.claimProcessingJob jobId workerId leaseSeconds).exec env db =
        (.error (.valueError message), db)) ∨
      (workerId.isEmpty = false ∧ 0 < leaseSeconds) ∧
        ClaimOutcome db jobId workerId leaseSeconds env.now
          ((RepoCall.claimProcessingJob jobId workerId leaseSeconds).exec env db) := by
  -- A worker without a name and a lease without a length are refused before any statement.
  cases named : workerId.isEmpty with
  | true =>
    rw [RepoCall.exec, RepoCall.program, Cislunar.claimProcessingJob, if_pos named]
    exact Or.inl ⟨_, rfl⟩
  | false =>
    by_cases lease : 0 < leaseSeconds
    · exact Or.inr ⟨⟨rfl, lease⟩, claimProcessingJob_valid env db jobId named lease⟩
    · rw [RepoCall.exec, RepoCall.program, Cislunar.claimProcessingJob, if_neg (by simp [named]),
        if_pos (by omega)]
      exact Or.inl ⟨_, rfl⟩

/-- The outcome of `complete_processing_job` as a call. -/
theorem completeProcessingJob_exec (jobId : UUID) (result : ProcessingResultValues)
    (workerId : String) (processedAt : Option Time) :
    CompleteOutcome db jobId result workerId (processedAt.getD env.now)
      ((RepoCall.completeProcessingJob jobId result workerId processedAt).exec env db) := by
  -- The call is one transaction that runs alone.
  have happened := completeProcessingJob_outcome jobId result workerId (processedAt.getD env.now) db
  rwa [← serially_transaction] at happened

/-- The outcome of `fail_processing_attempt` as a call with an argument that passes the guard. -/
theorem failProcessingAttempt_valid (jobId : UUID) (workerId reason : String) (temporary : Bool)
    {baseBackoffSeconds : Int} (now : Option Time) (backoff : 0 < baseBackoffSeconds) :
    FailOutcome db jobId workerId reason temporary baseBackoffSeconds (now.getD env.now)
      ((RepoCall.failProcessingAttempt jobId workerId reason temporary baseBackoffSeconds
        now).exec env db) := by
  -- One transaction is left behind the guard.
  rw [RepoCall.exec, RepoCall.program, Cislunar.failProcessingAttempt, if_neg (by omega),
    serially_transaction]
  exact failProcessingAttempt_outcome _ _ _ _ _ _ _

/-- The outcome of `fail_processing_attempt` as a call. -/
theorem failProcessingAttempt_exec (jobId : UUID) (workerId reason : String) (temporary : Bool)
    (baseBackoffSeconds : Int) (now : Option Time) :
    (∃ message, (RepoCall.failProcessingAttempt jobId workerId reason temporary baseBackoffSeconds
        now).exec env db = (.error (.valueError message), db)) ∨
      FailOutcome db jobId workerId reason temporary baseBackoffSeconds (now.getD env.now)
        ((RepoCall.failProcessingAttempt jobId workerId reason temporary baseBackoffSeconds
          now).exec env db) := by
  -- Only the backoff is guarded.
  by_cases backoff : 0 < baseBackoffSeconds
  · exact Or.inr (failProcessingAttempt_valid env db jobId workerId reason temporary now backoff)
  · rw [RepoCall.exec, RepoCall.program, Cislunar.failProcessingAttempt, if_pos (by omega)]
    exact Or.inl ⟨_, rfl⟩

/-- A call that only reads changes nothing. -/
theorem RepoCall.read_exec {call : RepoCall} (reads : call.isRead = true) :
    (call.exec env db).2 = db := by
  -- Three of the reads guard their limit, and none of them writes.
  cases call with
  | pendingQueueJobs limit =>
    rw [RepoCall.exec, RepoCall.program, Cislunar.pendingQueueJobs]
    split_ifs <;> rfl
  | recoverableQueueJobs limit =>
    rw [RepoCall.exec, RepoCall.program, Cislunar.recoverableQueueJobs]
    split_ifs <;> rfl
  | listAuditEvents limit =>
    rw [RepoCall.exec, RepoCall.program, Cislunar.listAuditEvents]
    split_ifs <;> rfl
  | getDelivery | getPacket | getProcessed | getJob | getJobForPacket | processingQueueDepth => rfl
  | recordDelivery | rejectDelivery | acceptPacketAndCreateJob | markJobQueued
  | claimProcessingJob | completeProcessingJob | failProcessingAttempt | recordAuditEvent =>
    cases reads

/-- `get_delivery` reads a receipt. -/
theorem getDelivery_exec (receiptId : UUID) :
    (RepoCall.getDelivery receiptId).exec env db = (.ok (db.receipts.get? receiptId), db) := rfl

/-- `get_job` reads a job. -/
theorem getJob_exec (jobId : UUID) :
    (RepoCall.getJob jobId).exec env db = (.ok (db.jobs.get? jobId), db) := rfl

/-- `get_job_for_packet` reads the job of a packet. -/
theorem getJobForPacket_exec (packetId : String) :
    (RepoCall.getJobForPacket packetId).exec env db = (.ok (db.jobByPacket packetId), db) := rfl

/-- Every call has one of the listed effects. -/
theorem RepoCall.exec_effect (call : RepoCall) : Effect db (call.exec env db).2 := by
  -- One case per call: its guards leave the tables alone, its outcome has its own effect.
  cases call with
  | recordDelivery delivery receiptId =>
    rcases recordDelivery_serially delivery receiptId env.uuid4 db with ⟨_, failed⟩ | ⟨_, happened⟩
    · exact congrArg Prod.snd failed ▸ .unchanged
    · exact happened.effect
  | rejectDelivery receiptId reason parsedIdentifiers actorIdentity =>
    exact (rejectDelivery_exec env db receiptId reason parsedIdentifiers actorIdentity).effect
  | acceptPacketAndCreateJob receiptId values maxAttempts actorIdentity =>
    rcases acceptPacketAndCreateJob_serially receiptId values
      { maxAttempts := maxAttempts, actorIdentity := actorIdentity, now := env.now } env.uuid4 db
      with ⟨_, failed⟩ | ⟨range, -, _, happened⟩
    · exact congrArg Prod.snd failed ▸ .unchanged
    · exact happened.effect range
  | markJobQueued jobId queueMessageId actorIdentity =>
    exact (markJobQueued_exec env db jobId queueMessageId actorIdentity).effect
  | claimProcessingJob jobId workerId leaseSeconds =>
    rcases claimProcessingJob_exec env db jobId workerId leaseSeconds with
      ⟨_, failed⟩ | ⟨-, happened⟩
    · exact congrArg Prod.snd failed ▸ .unchanged
    · exact happened.effect
  | completeProcessingJob jobId result workerId processedAt =>
    exact (completeProcessingJob_exec env db jobId result workerId processedAt).effect
  | failProcessingAttempt jobId workerId reason temporary baseBackoffSeconds now =>
    rcases failProcessingAttempt_exec env db jobId workerId reason temporary baseBackoffSeconds now
      with ⟨_, failed⟩ | happened
    · exact congrArg Prod.snd failed ▸ .unchanged
    · exact happened.effect
  | recordAuditEvent event => exact .audited event
  | pendingQueueJobs | recoverableQueueJobs | getDelivery | getPacket | getProcessed | getJob
  | getJobForPacket | listAuditEvents | processingQueueDepth =>
    rw [RepoCall.read_exec]
    · exact .unchanged
    · rfl

end

end Cislunar

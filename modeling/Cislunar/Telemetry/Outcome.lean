import Cislunar.Telemetry.Storage

/-!
The effect of every repository transaction as a whole, one relation per operation.

Each relation lists the branches of its transaction with what the branch has read, what it answers
and the database it leaves; an error leaves the database as it was.
-/

namespace Cislunar

open Foundation

namespace Database

/-- A new receipt with its audit event. -/
def addReceipt (db : Database) (row : TelemetryDeliveryReceipt) (event : TelemetryAuditEvent) :
    Database :=
  { db with receipts := db.receipts.insert row, auditEvents := db.auditEvents ++ [event] }

/-- A new receipt that also takes possession of its request identifier. -/
def addOwner (db : Database) (row : TelemetryDeliveryReceipt) (identity : TelemetryRequestIdentity)
    (event : TelemetryAuditEvent) : Database :=
  { db with
    receipts := db.receipts.insert row
    identities := db.identities.insert identity
    auditEvents := db.auditEvents ++ [event] }

/-- A receipt that reached its final status. -/
def settle (db : Database) (row : TelemetryDeliveryReceipt) (event : TelemetryAuditEvent) :
    Database :=
  { db with receipts := db.receipts.set row, auditEvents := db.auditEvents ++ [event] }

/-- A job in a new state. -/
def move (db : Database) (row : TelemetryProcessingJob) (events : List TelemetryAuditEvent) :
    Database :=
  { db with jobs := db.jobs.set row, auditEvents := db.auditEvents ++ events }

/-- The sequence states after one more packet of a session. -/
def countPacket (db : Database) (values : DecodedTelemetryValues)
    (disposition : PacketDisposition) (missingBefore : Int) :
    Option TelemetrySequenceState → Table TelemetrySequenceState.session
  | none => db.states.insert (firstState values missingBefore)
  | some state => db.states.set (state.count values disposition missingBefore)

/-- The state of a session after one more packet. -/
def stateAfter (values : DecodedTelemetryValues) (disposition : PacketDisposition)
    (missingBefore : Int) : Option TelemetrySequenceState → TelemetrySequenceState
  | none => firstState values missingBefore
  | some state => state.count values disposition missingBefore

/-- A new packet with its job, its accepted receipt and its place in the session. -/
def addPacket (db : Database) (receipt : TelemetryDeliveryReceipt)
    (values : DecodedTelemetryValues) (sequenceState : Option TelemetrySequenceState)
    (disposition : PacketDisposition) (missingBefore : Int) (jobId : UUID)
    (options : AcceptanceOptions) : Database :=
  { db with
    packets := db.packets.insert (newPacket receipt values disposition missingBefore)
    states := db.countPacket values disposition missingBefore sequenceState
    jobs := db.jobs.insert (newJob jobId values.packetId options.maxAttempts options.now)
    receipts := db.receipts.set (acceptedReceipt receipt values)
    auditEvents := db.auditEvents ++
      [acceptedEvent receipt values disposition missingBefore jobId options.actorIdentity] }

/-- A queued job; the accepted receipts of its packet say so. -/
def queue (db : Database) (job : TelemetryProcessingJob) (queueMessageId actorIdentity : String) :
    Database :=
  { db with
    jobs := db.jobs.set (queuedJob job queueMessageId)
    receipts := db.receipts.modify
      (fun receipt =>
        receipt.logicalPacketId = some job.packetId ∧ receipt.validationStatus = .accepted)
      (fun receipt => { receipt with queueStatus := .queued }) (fun _ => rfl)
    auditEvents := db.auditEvents ++ [queuedEvent job queueMessageId actorIdentity] }

/-- A completed job with its new result. -/
def complete (db : Database) (job : TelemetryProcessingJob) (result : ProcessingResultValues)
    (workerId : String) (completionTime : Time) : Database :=
  { db with
    jobs := db.jobs.set (completedJob job completionTime)
    processed := db.processed.insert (processedRow job result completionTime)
    auditEvents := db.auditEvents ++ [completedEvent job result workerId] }

end Database

/-- What `record_delivery` can do. -/
inductive RecordOutcome (db : Database) (delivery : Delivery) (receiptId : UUID) :
    Except StorageError DeliveryRecordResult × Database → Prop where
  | anonymous (unnamed : delivery.canonicalRequestId = none)
      (admitted : db.AdmitsReceipt (delivery.receipt receiptId none)) :
      RecordOutcome db delivery receiptId
        (.ok (deliveryResult (delivery.receipt receiptId none) false false),
          db.addReceipt (delivery.receipt receiptId none)
            (delivery.auditEvent (delivery.receipt receiptId none) false))
  | first {requestId : UUID} (named : delivery.canonicalRequestId = some requestId)
      (admitted : db.AdmitsReceipt (delivery.receipt receiptId none))
      (unowned : db.AdmitsIdentity ⟨requestId, receiptId, sha256Hex delivery.rawBody⟩) :
      RecordOutcome db delivery receiptId
        (.ok (deliveryResult (delivery.receipt receiptId none) false false),
          db.addOwner (delivery.receipt receiptId none)
            ⟨requestId, receiptId, sha256Hex delivery.rawBody⟩
            (delivery.auditEvent (delivery.receipt receiptId none) false))
  | replay {owner : TelemetryRequestIdentity} {original : TelemetryDeliveryReceipt}
      (named : delivery.canonicalRequestId = some owner.requestId) (owned : owner ∈ db.identities)
      (present : original ∈ db.receipts) (link : original.receiptId = owner.firstReceiptId)
      (digest : owner.bodySha256 = sha256Hex delivery.rawBody)
      (same : original.rawBody = delivery.rawBody) :
      RecordOutcome db delivery receiptId (.ok (deliveryResult original true false), db)
  | reused {owner : TelemetryRequestIdentity} {original : TelemetryDeliveryReceipt}
      (named : delivery.canonicalRequestId = some owner.requestId) (owned : owner ∈ db.identities)
      (present : original ∈ db.receipts) (link : original.receiptId = owner.firstReceiptId)
      (different : ¬(owner.bodySha256 = sha256Hex delivery.rawBody ∧
        original.rawBody = delivery.rawBody))
      (admitted : db.AdmitsReceipt (delivery.receipt receiptId (some original))) :
      RecordOutcome db delivery receiptId
        (.ok (deliveryResult (delivery.receipt receiptId (some original)) false true),
          db.addReceipt (delivery.receipt receiptId (some original))
            (delivery.auditEvent (delivery.receipt receiptId (some original)) true))
  /-- The new identifier is in use, or the body is too long. -/
  | integrity
      (unmatched : ∀ owner ∈ db.identities, delivery.canonicalRequestId = some owner.requestId →
        ∀ original ∈ db.receipts, original.receiptId = owner.firstReceiptId →
        ¬(owner.bodySha256 = sha256Hex delivery.rawBody ∧ original.rawBody = delivery.rawBody))
      (refused : ¬(db.receipts.get? receiptId = none ∧
        delivery.rawBody.length ≤ maxEvidenceBodyBytes ∧
        ∀ other ∈ db.identities, other.firstReceiptId ≠ receiptId)) :
      RecordOutcome db delivery receiptId (.error .integrity, db)
  | dangling {owner : TelemetryRequestIdentity}
      (named : delivery.canonicalRequestId = some owner.requestId) (owned : owner ∈ db.identities)
      (absent : db.receipts.get? owner.firstReceiptId = none) (message : String) :
      RecordOutcome db delivery receiptId (.error (.storage message), db)

/-- What `reject_delivery` can do. -/
inductive RejectOutcome (db : Database) (receiptId : UUID) (reason : String)
    (parsedIdentifiers : Option JsonObject) (actorIdentity : String) :
    Except StorageError DeliveryRecordResult × Database → Prop where
  | missing (absent : db.receipts.get? receiptId = none) :
      RejectOutcome db receiptId reason parsedIdentifiers actorIdentity
        (.error (.deliveryNotFound receiptId), db)
  | repeated {receipt : TelemetryDeliveryReceipt}
      (found : db.receipts.get? receiptId = some receipt)
      (status : receipt.validationStatus = .rejected)
      (same : receipt.rejectionReason = some reason) :
      RejectOutcome db receiptId reason parsedIdentifiers actorIdentity
        (.ok (deliveryResult receipt true false), db)
  | refused {receipt : TelemetryDeliveryReceipt}
      (found : db.receipts.get? receiptId = some receipt)
      (status : receipt.validationStatus ≠ .pending) (message : String) :
      RejectOutcome db receiptId reason parsedIdentifiers actorIdentity
        (.error (.invalidDeliveryState message), db)
  | rejected {receipt : TelemetryDeliveryReceipt}
      (found : db.receipts.get? receiptId = some receipt)
      (status : receipt.validationStatus = .pending) :
      RejectOutcome db receiptId reason parsedIdentifiers actorIdentity
        (.ok (deliveryResult (rejectedReceipt receipt reason parsedIdentifiers) false false),
          db.settle (rejectedReceipt receipt reason parsedIdentifiers)
            (rejectedEvent receiptId reason parsedIdentifiers actorIdentity))

/-- What `accept_packet_and_create_job` can do with a pending receipt. -/
inductive SettleOutcome (db : Database) (receipt : TelemetryDeliveryReceipt)
    (values : DecodedTelemetryValues) (jobId : UUID) (options : AcceptanceOptions) :
    Except StorageError PacketAcceptanceResult × Database → Prop where
  | duplicated {existing : LogicalTelemetryPacket} {origin : TelemetryDeliveryReceipt}
      (stored : existing ∈ db.packets) (key : existing.values.sourceKey = values.sourceKey)
      (source : db.receipts.get? existing.sourceReceiptId = some origin)
      (digest : existing.rawSha256 = receipt.bodySha256) (same : origin.rawBody = receipt.rawBody) :
      SettleOutcome db receipt values jobId options
        (.ok (duplicateResult receipt existing (db.jobByPacket existing.packetId)),
          db.settle (duplicateReceipt receipt values existing)
            (duplicateEvent receipt existing (db.jobByPacket existing.packetId)
              options.actorIdentity))
  | conflicted {existing : LogicalTelemetryPacket}
      (stored : existing ∈ db.packets) (key : existing.values.sourceKey = values.sourceKey)
      (different : ∀ origin, db.receipts.get? existing.sourceReceiptId = some origin →
        existing.rawSha256 = receipt.bodySha256 → origin.rawBody ≠ receipt.rawBody) :
      SettleOutcome db receipt values jobId options
        (.ok (sequenceConflictResult receipt existing),
          db.settle (sequenceConflictReceipt receipt values existing)
            (sequenceConflictEvent receipt existing options.actorIdentity))
  | stateConflicted {state : TelemetrySequenceState}
      (unused : db.packetBySource values.sourceKey = none)
      (tracked : db.states.get? (values.payloadId, values.bootId) = some state)
      (onMark : forwardDistance values.sequenceNumber state.highWaterSequence = 0) :
      SettleOutcome db receipt values jobId options
        (.ok (stateConflictResult receipt),
          db.settle (stateConflictReceipt receipt values)
            (stateConflictEvent receipt options.actorIdentity))
  | accepted {sequenceState : Option TelemetrySequenceState} {disposition : PacketDisposition}
      {missingBefore : Int} (unused : db.packetBySource values.sourceKey = none)
      (tracked : db.states.get? (values.payloadId, values.bootId) = sequenceState)
      (position : sequencePosition values.sequenceNumber sequenceState =
        some (disposition, missingBefore))
      (packetAdmitted : db.AdmitsPacket (newPacket receipt values disposition missingBefore))
      (stateAdmitted : sequenceState = none → db.AdmitsState (firstState values missingBefore))
      (jobAdmitted : db.AdmitsJob (newJob jobId values.packetId options.maxAttempts options.now)) :
      SettleOutcome db receipt values jobId options
        (.ok (acceptedResult receipt values jobId disposition missingBefore),
          db.addPacket receipt values sequenceState disposition missingBefore jobId options)
  /-- A constraint refuses one of the new rows. -/
  | integrity {sequenceState : Option TelemetrySequenceState} {disposition : PacketDisposition}
      {missingBefore : Int} (unused : db.packetBySource values.sourceKey = none)
      (tracked : db.states.get? (values.payloadId, values.bootId) = sequenceState)
      (position : sequencePosition values.sequenceNumber sequenceState =
        some (disposition, missingBefore))
      (refused : ¬(db.AdmitsPacket (newPacket receipt values disposition missingBefore) ∧
        (sequenceState = none → db.AdmitsState (firstState values missingBefore)) ∧
        db.AdmitsJob (newJob jobId values.packetId options.maxAttempts options.now))) :
      SettleOutcome db receipt values jobId options (.error .integrity, db)

/-- What `_accept_packet_transaction` can do. -/
inductive AcceptOutcome (db : Database) (receiptId : UUID) (values : DecodedTelemetryValues)
    (jobId : UUID) (options : AcceptanceOptions) :
    Except StorageError PacketAcceptanceResult × Database → Prop where
  | missing (absent : db.receipts.get? receiptId = none) :
      AcceptOutcome db receiptId values jobId options (.error (.deliveryNotFound receiptId), db)
  | replayed {receipt : TelemetryDeliveryReceipt}
      (found : db.receipts.get? receiptId = some receipt)
      (status : receipt.validationStatus = .accepted ∨ receipt.validationStatus = .duplicate) :
      AcceptOutcome db receiptId values jobId options
        (.ok (replayedAcceptance receipt (receipt.logicalPacketId.bind db.packets.get?)
          (receipt.logicalPacketId.bind db.jobByPacket)), db)
  | refused {receipt : TelemetryDeliveryReceipt}
      (found : db.receipts.get? receiptId = some receipt)
      (status : receipt.validationStatus = .rejected ∨ receipt.validationStatus = .conflict)
      (message : String) :
      AcceptOutcome db receiptId values jobId options (.error (.invalidDeliveryState message), db)
  | settled {receipt : TelemetryDeliveryReceipt}
      (found : db.receipts.get? receiptId = some receipt)
      (status : receipt.validationStatus = .pending)
      {outcome : Except StorageError PacketAcceptanceResult × Database}
      (settles : SettleOutcome db receipt values jobId options outcome) :
      AcceptOutcome db receiptId values jobId options outcome

/-- What `mark_job_queued` can do. -/
inductive QueueOutcome (db : Database) (jobId : UUID) (queueMessageId actorIdentity : String) :
    Except StorageError Bool × Database → Prop where
  | missing (absent : db.jobs.get? jobId = none) :
      QueueOutcome db jobId queueMessageId actorIdentity (.error (.processingJobNotFound jobId), db)
  | repeated {job : TelemetryProcessingJob} (found : db.jobs.get? jobId = some job)
      (status : job.state = .queued) (same : job.queueMessageId = some queueMessageId) :
      QueueOutcome db jobId queueMessageId actorIdentity (.ok false, db)
  | renamed {job : TelemetryProcessingJob} (found : db.jobs.get? jobId = some job)
      (status : job.state = .queued) (different : job.queueMessageId ≠ some queueMessageId)
      (message : String) :
      QueueOutcome db jobId queueMessageId actorIdentity
        (.error (.invalidDeliveryState message), db)
  | refused {job : TelemetryProcessingJob} (found : db.jobs.get? jobId = some job)
      (status : job.state = .processing ∨ job.state = .complete ∨ job.state = .failed)
      (message : String) :
      QueueOutcome db jobId queueMessageId actorIdentity
        (.error (.invalidDeliveryState message), db)
  | queued {job : TelemetryProcessingJob} (found : db.jobs.get? jobId = some job)
      (status : job.state = .pendingQueue ∨ job.state = .retryWait) :
      QueueOutcome db jobId queueMessageId actorIdentity
        (.ok true, db.queue job queueMessageId actorIdentity)

/-- What `claim_processing_job` can do. -/
inductive ClaimOutcome (db : Database) (jobId : UUID) (workerId : String) (leaseSeconds : Int)
    (now : Time) : Except StorageError (Option TelemetryWorkItem) × Database → Prop where
  | missing (absent : db.jobs.get? jobId = none) :
      ClaimOutcome db jobId workerId leaseSeconds now (.error (.processingJobNotFound jobId), db)
  | closed {job : TelemetryProcessingJob} {processed : ProcessedTelemetry}
      (found : db.jobs.get? jobId = some job)
      (done : db.processed.get? job.packetId = some processed) (status : job.state ≠ .complete) :
      ClaimOutcome db jobId workerId leaseSeconds now
        (.ok none, db.move (closedJob job processed) [])
  | finished {job : TelemetryProcessingJob} {processed : ProcessedTelemetry}
      (found : db.jobs.get? jobId = some job)
      (done : db.processed.get? job.packetId = some processed) (status : job.state = .complete) :
      ClaimOutcome db jobId workerId leaseSeconds now (.ok none, db)
  | unavailable {job : TelemetryProcessingJob} (found : db.jobs.get? jobId = some job)
      (undone : db.processed.get? job.packetId = none) (held : isClaimable job now = false) :
      ClaimOutcome db jobId workerId leaseSeconds now (.ok none, db)
  | dangling {job : TelemetryProcessingJob} (found : db.jobs.get? jobId = some job)
      (broken : ∀ packet, db.packets.get? job.packetId = some packet →
        db.receipts.get? packet.sourceReceiptId = none) (message : String) :
      ClaimOutcome db jobId workerId leaseSeconds now (.error (.storage message), db)
  | taken {job : TelemetryProcessingJob} {packet : LogicalTelemetryPacket}
      {receipt : TelemetryDeliveryReceipt} (found : db.jobs.get? jobId = some job)
      (undone : db.processed.get? job.packetId = none) (free : isClaimable job now = true)
      (stored : db.packets.get? job.packetId = some packet)
      (source : db.receipts.get? packet.sourceReceiptId = some receipt) :
      ClaimOutcome db jobId workerId leaseSeconds now
        (.ok (some (workItem (claimedJob job workerId leaseSeconds now) packet receipt)),
          db.move (claimedJob job workerId leaseSeconds now)
            [claimedEvent (claimedJob job workerId leaseSeconds now) packet receipt workerId])

/-- What `complete_processing_job` can do. -/
inductive CompleteOutcome (db : Database) (jobId : UUID) (result : ProcessingResultValues)
    (workerId : String) (completionTime : Time) :
    Except StorageError ProcessedTelemetry × Database → Prop where
  | missing (absent : db.jobs.get? jobId = none) :
      CompleteOutcome db jobId result workerId completionTime
        (.error (.processingJobNotFound jobId), db)
  | conflicting {job : TelemetryProcessingJob} {existing : ProcessedTelemetry}
      (found : db.jobs.get? jobId = some job)
      (done : db.processed.get? job.packetId = some existing)
      (different : sameProcessingResult existing result = false) (message : String) :
      CompleteOutcome db jobId result workerId completionTime
        (.error (.processingResultConflict message), db)
  | closed {job : TelemetryProcessingJob} {existing : ProcessedTelemetry}
      (found : db.jobs.get? jobId = some job)
      (done : db.processed.get? job.packetId = some existing)
      (same : sameProcessingResult existing result = true) :
      CompleteOutcome db jobId result workerId completionTime
        (.ok existing, db.move (closedJob job existing) [])
  | refused {job : TelemetryProcessingJob} (found : db.jobs.get? jobId = some job)
      (undone : db.processed.get? job.packetId = none)
      (lost : job.state ≠ .processing ∨ job.claimedBy ≠ some workerId) (message : String) :
      CompleteOutcome db jobId result workerId completionTime
        (.error (.invalidDeliveryState message), db)
  | completed {job : TelemetryProcessingJob} (found : db.jobs.get? jobId = some job)
      (undone : db.processed.get? job.packetId = none) (status : job.state = .processing)
      (owned : job.claimedBy = some workerId)
      (admitted : db.AdmitsProcessed (processedRow job result completionTime)) :
      CompleteOutcome db jobId result workerId completionTime
        (.ok (processedRow job result completionTime),
          db.complete job result workerId completionTime)
  /-- Another packet's result carries the identifier of this job. -/
  | integrity {job : TelemetryProcessingJob} (found : db.jobs.get? jobId = some job)
      (undone : db.processed.get? job.packetId = none)
      (refused : ¬db.AdmitsProcessed (processedRow job result completionTime)) :
      CompleteOutcome db jobId result workerId completionTime (.error .integrity, db)

/-- What `fail_processing_attempt` can do. -/
inductive FailOutcome (db : Database) (jobId : UUID) (workerId reason : String) (temporary : Bool)
    (baseBackoffSeconds : Int) (failureTime : Time) :
    Except StorageError ProcessingFailureResult × Database → Prop where
  | missing (absent : db.jobs.get? jobId = none) :
      FailOutcome db jobId workerId reason temporary baseBackoffSeconds failureTime
        (.error (.processingJobNotFound jobId), db)
  | repeated {job : TelemetryProcessingJob} (found : db.jobs.get? jobId = some job)
      (status : job.state = .failed) :
      FailOutcome db jobId workerId reason temporary baseBackoffSeconds failureTime
        (.ok (failureResult job none), db)
  | refused {job : TelemetryProcessingJob} (found : db.jobs.get? jobId = some job)
      (lost : job.state ≠ .processing ∨ job.claimedBy ≠ some workerId)
      (other : job.state ≠ .failed) (message : String) :
      FailOutcome db jobId workerId reason temporary baseBackoffSeconds failureTime
        (.error (.invalidDeliveryState message), db)
  | failed {job : TelemetryProcessingJob} (found : db.jobs.get? jobId = some job)
      (status : job.state = .processing) (owned : job.claimedBy = some workerId) :
      FailOutcome db jobId workerId reason temporary baseBackoffSeconds failureTime
        (.ok (failureResult (jobAfterFailure job reason temporary baseBackoffSeconds failureTime)
            (jobAfterFailure job reason temporary baseBackoffSeconds failureTime).nextAttemptAt),
          db.move (jobAfterFailure job reason temporary baseBackoffSeconds failureTime)
            [failureEvent (jobAfterFailure job reason temporary baseBackoffSeconds failureTime)
              reason workerId])

end Cislunar

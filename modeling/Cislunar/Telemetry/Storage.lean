import Cislunar.Foundation.Transaction
import Cislunar.Telemetry.Transitions

/-!
The repository: every public operation is one database transaction over the telemetry tables.

Two operations may run their transaction a second time after an integrity error.
Generated identifiers and clock readings are arguments; `uuid4` gives one identifier per attempt.
-/

namespace Cislunar

open Foundation Foundation.Prog

/-- The body of a transaction. -/
abbrev Txn := Prog StorageError Stmt Stmt.Reply

/-- A program of transactions, as one repository call runs it. -/
abbrev Repo := Prog StorageError (Sql Stmt) (Sql.Reply Stmt.Reply)

/-- Execute one statement. -/
def sql (stmt : Stmt) : Txn stmt.Reply := call stmt

/-- Whether an error is an `IntegrityError`. -/
def StorageError.isIntegrity : StorageError → Bool
  | integrity => true
  | _ => false

/-- `_audit`. -/
def audit (event : TelemetryAuditEvent) : Txn Unit :=
  sql (.insertAudit event)

/-- `record_audit_event`. -/
def recordAuditEvent (event : TelemetryAuditEvent) : Repo TelemetryAuditEvent :=
  transaction do
    audit event
    return event

/-- Add the receipt of a delivery, and its request identity where the identifier is new. -/
def insertDelivery (delivery : Delivery) (receiptId : UUID)
    (identity : Option TelemetryRequestIdentity) (firstReceipt : Option TelemetryDeliveryReceipt) :
    Txn DeliveryRecordResult := do
  let receipt := delivery.receipt receiptId firstReceipt
  sql (.insertReceipt receipt)
  match delivery.canonicalRequestId, identity with
  | some requestId, none => sql (.insertIdentity ⟨requestId, receiptId, receipt.bodySha256⟩)
  | _, _ => pure ()
  audit (delivery.auditEvent receipt firstReceipt.isSome)
  return deliveryResult receipt false firstReceipt.isSome

/-- The transaction of `record_delivery`. -/
def recordDeliveryTransaction (delivery : Delivery) (receiptId : UUID) :
    Txn DeliveryRecordResult :=
  match delivery.canonicalRequestId with
  | none => insertDelivery delivery receiptId none none
  | some requestId => do
    let identity : Option TelemetryRequestIdentity ← sql (.selectIdentity requestId)
    match identity with
    | none => insertDelivery delivery receiptId none none
    | some owner =>
      let firstReceipt : Option TelemetryDeliveryReceipt ←
        sql (.selectReceipt owner.firstReceiptId false)
      match firstReceipt with
      | none => raise (.storage "request identity points to a missing receipt")
      | some first =>
        if owner.bodySha256 = sha256Hex delivery.rawBody ∧ first.rawBody = delivery.rawBody then
          return deliveryResult first true false
        else
          insertDelivery delivery receiptId (some owner) (some first)

/-- `record_delivery`. -/
def recordDelivery (delivery : Delivery) (receiptId : Option UUID) (uuid4 : Nat → UUID) :
    Repo DeliveryRecordResult :=
  if maxEvidenceBodyBytes < delivery.rawBody.length then
    raise (.valueError "raw body exceeds 1024-byte evidence limit")
  else if delivery.peerCertificateIdentity.isEmpty then
    raise (.valueError "peer_certificate_identity must not be empty")
  else
    retryOnce StorageError.isIntegrity fun attempt =>
      transaction (recordDeliveryTransaction delivery (receiptId.getD (uuid4 attempt)))

/-- The transaction of `reject_delivery`. -/
def rejectDeliveryTransaction (receiptId : UUID) (reason : String)
    (parsedIdentifiers : Option JsonObject) (actorIdentity : String) :
    Txn DeliveryRecordResult := do
  let found : Option TelemetryDeliveryReceipt ← sql (.selectReceipt receiptId true)
  match found with
  | none => raise (.deliveryNotFound receiptId)
  | some receipt =>
    if receipt.validationStatus = .rejected then
      if receipt.rejectionReason ≠ some reason then
        raise (.invalidDeliveryState "delivery was already rejected for a different reason")
      else
        return deliveryResult receipt true false
    else if receipt.validationStatus ≠ .pending then
      raise (.invalidDeliveryState
        ("cannot reject a " ++ receipt.validationStatus.value ++ " delivery"))
    else
      let rejected := rejectedReceipt receipt reason parsedIdentifiers
      sql (.updateReceipt rejected)
      audit (rejectedEvent receiptId reason parsedIdentifiers actorIdentity)
      return deliveryResult rejected false false

/-- `reject_delivery`. -/
def rejectDelivery (receiptId : UUID) (reason : String)
    (parsedIdentifiers : Option JsonObject := none) (actorIdentity : String := "ground-api") :
    Repo DeliveryRecordResult :=
  transaction (rejectDeliveryTransaction receiptId reason parsedIdentifiers actorIdentity)

/-- The branch for a receipt that is accepted or a duplicate already. -/
def replayAcceptance (receipt : TelemetryDeliveryReceipt) : Txn PacketAcceptanceResult :=
  match receipt.logicalPacketId with
  | none => return replayedAcceptance receipt none none
  | some packetId => do
    let packet : Option LogicalTelemetryPacket ← sql (.selectPacket packetId)
    let job : Option TelemetryProcessingJob ← sql (.selectJobByPacket packetId)
    return replayedAcceptance receipt packet job

/-- The branch for a source key that already has a packet. -/
def settleExisting (receipt : TelemetryDeliveryReceipt) (values : DecodedTelemetryValues)
    (existing : LogicalTelemetryPacket) (actorIdentity : String) : Txn PacketAcceptanceResult := do
  let origin : Option TelemetryDeliveryReceipt ←
    sql (.selectReceipt existing.sourceReceiptId false)
  if isExactDuplicate receipt existing origin then
    -- The select that follows flushes the changed receipt first.
    sql (.updateReceipt (duplicateReceipt receipt values existing))
    let existingJob : Option TelemetryProcessingJob ← sql (.selectJobByPacket existing.packetId)
    audit (duplicateEvent receipt existing existingJob actorIdentity)
    return duplicateResult receipt existing existingJob
  else
    sql (.updateReceipt (sequenceConflictReceipt receipt values existing))
    audit (sequenceConflictEvent receipt existing actorIdentity)
    return sequenceConflictResult receipt existing

/-- The branch for a high-water mark whose packet is missing. -/
def settleStateConflict (receipt : TelemetryDeliveryReceipt) (values : DecodedTelemetryValues)
    (actorIdentity : String) : Txn PacketAcceptanceResult := do
  sql (.updateReceipt (stateConflictReceipt receipt values))
  audit (stateConflictEvent receipt actorIdentity)
  return stateConflictResult receipt

/-- The branch that adds the packet, counts it in its session and creates its job. -/
def acceptNew (receipt : TelemetryDeliveryReceipt) (values : DecodedTelemetryValues)
    (sequenceState : Option TelemetrySequenceState) (disposition : PacketDisposition)
    (missingBefore : Int) (jobId : UUID) (options : AcceptanceOptions) :
    Txn PacketAcceptanceResult := do
  sql (.insertPacket (newPacket receipt values disposition missingBefore))
  match sequenceState with
  | none => sql (.insertState (firstState values missingBefore))
  | some state => sql (.updateState (state.count values disposition missingBefore))
  sql (.insertJob (newJob jobId values.packetId options.maxAttempts options.now))
  sql (.updateReceipt (acceptedReceipt receipt values))
  audit (acceptedEvent receipt values disposition missingBefore jobId options.actorIdentity)
  return acceptedResult receipt values jobId disposition missingBefore

/-- The branch for a pending receipt. -/
def settlePending (receipt : TelemetryDeliveryReceipt) (values : DecodedTelemetryValues)
    (jobId : UUID) (options : AcceptanceOptions) : Txn PacketAcceptanceResult := do
  let existingPacket : Option LogicalTelemetryPacket ←
    sql (.selectPacketBySource values.sourceKey)
  match existingPacket with
  | some existing => settleExisting receipt values existing options.actorIdentity
  | none =>
    let sequenceState : Option TelemetrySequenceState ←
      sql (.selectState (values.payloadId, values.bootId))
    match sequencePosition values.sequenceNumber sequenceState with
    | none => settleStateConflict receipt values options.actorIdentity
    | some (disposition, missingBefore) =>
      acceptNew receipt values sequenceState disposition missingBefore jobId options

/-- `_accept_packet_transaction`. -/
def acceptPacketTransaction (receiptId : UUID) (values : DecodedTelemetryValues) (jobId : UUID)
    (options : AcceptanceOptions) : Txn PacketAcceptanceResult := do
  let found : Option TelemetryDeliveryReceipt ← sql (.selectReceipt receiptId true)
  match found with
  | none => raise (.deliveryNotFound receiptId)
  | some receipt =>
    if receipt.validationStatus = .accepted ∨ receipt.validationStatus = .duplicate then
      replayAcceptance receipt
    else if receipt.validationStatus ≠ .pending then
      raise (.invalidDeliveryState
        ("cannot accept a " ++ receipt.validationStatus.value ++ " delivery"))
    else
      settlePending receipt values jobId options

/-- `accept_packet_and_create_job`. -/
def acceptPacketAndCreateJob (receiptId : UUID) (values : DecodedTelemetryValues)
    (options : AcceptanceOptions) (uuid4 : Nat → UUID) : Repo PacketAcceptanceResult :=
  if ¬(0 ≤ values.sequenceNumber ∧ values.sequenceNumber ≤ maxUint32) then
    raise (.valueError "sequence_number must be an unsigned 32-bit value")
  else if values.bootId ≤ 0 then
    raise (.valueError "boot_id must be nonzero")
  else if options.maxAttempts ≤ 0 then
    raise (.valueError "max_attempts must be positive")
  else
    retryOnce StorageError.isIntegrity fun attempt =>
      transaction (acceptPacketTransaction receiptId values (uuid4 attempt) options)

/-- Write the queue status of every given receipt. -/
def updateQueued : List TelemetryDeliveryReceipt → Txn Unit
  | [] => return
  | receipt :: rest => do
    sql (.updateReceipt { receipt with queueStatus := .queued })
    updateQueued rest

/-- The transaction of `mark_job_queued`. -/
def markJobQueuedTransaction (jobId : UUID) (queueMessageId actorIdentity : String) :
    Txn Bool := do
  let found : Option TelemetryProcessingJob ← sql (.selectJob jobId true)
  match found with
  | none => raise (.processingJobNotFound jobId)
  | some job =>
    if job.state = .queued then
      if job.queueMessageId ≠ some queueMessageId then
        raise (.invalidDeliveryState "job is already queued with a different queue message ID")
      else
        return false
    else if job.state ≠ .pendingQueue ∧ job.state ≠ .retryWait then
      raise (.invalidDeliveryState ("cannot queue a " ++ job.state.value ++ " processing job"))
    else
      sql (.updateJob (queuedJob job queueMessageId))
      let receipts : List TelemetryDeliveryReceipt ← sql (.selectAcceptedReceipts job.packetId)
      updateQueued receipts
      audit (queuedEvent job queueMessageId actorIdentity)
      return true

/-- `mark_job_queued`. -/
def markJobQueued (jobId : UUID) (queueMessageId : String)
    (actorIdentity : String := "ground-api") : Repo Bool :=
  transaction (markJobQueuedTransaction jobId queueMessageId actorIdentity)

/-- `pending_queue_jobs`. -/
def pendingQueueJobs (limit : Nat) (now : Time) : Repo (List UUID) :=
  if ¬(1 ≤ limit ∧ limit ≤ 1000) then
    raise (.valueError "limit must be between 1 and 1000")
  else
    transaction (sql (.selectJobs (TelemetryProcessingJob.isPending now) limit))

/-- `recoverable_queue_jobs`. -/
def recoverableQueueJobs (limit : Nat) (now : Time) : Repo (List UUID) :=
  if ¬(1 ≤ limit ∧ limit ≤ 10000) then
    raise (.valueError "limit must be between 1 and 10000")
  else
    transaction (sql (.selectJobs (TelemetryProcessingJob.isRecoverable now) limit))

/-- Take a claimable job. -/
def takeJob (job : TelemetryProcessingJob) (workerId : String) (leaseSeconds : Int) (now : Time) :
    Txn (Option TelemetryWorkItem) := do
  let foundPacket : Option LogicalTelemetryPacket ← sql (.selectPacket job.packetId)
  match foundPacket with
  | none => raise (.storage ("job " ++ job.jobId.str ++ " points to a missing packet"))
  | some packet =>
    let foundReceipt : Option TelemetryDeliveryReceipt ←
      sql (.selectReceipt packet.sourceReceiptId false)
    match foundReceipt with
    | none =>
      raise (.storage ("packet " ++ packet.packetId ++ " points to a missing raw receipt"))
    | some receipt =>
      let claimed := claimedJob job workerId leaseSeconds now
      sql (.updateJob claimed)
      audit (claimedEvent claimed packet receipt workerId)
      return some (workItem claimed packet receipt)

/-- The transaction of `claim_processing_job`. -/
def claimProcessingJobTransaction (jobId : UUID) (workerId : String) (leaseSeconds : Int)
    (now : Time) : Txn (Option TelemetryWorkItem) := do
  let found : Option TelemetryProcessingJob ← sql (.selectJob jobId true)
  match found with
  | none => raise (.processingJobNotFound jobId)
  | some job =>
    let foundProcessed : Option ProcessedTelemetry ← sql (.selectProcessed job.packetId)
    match foundProcessed with
    | some processed =>
      if job.state ≠ .complete then
        sql (.updateJob (closedJob job processed))
        return none
      else
        return none
    | none =>
      if isClaimable job now then
        takeJob job workerId leaseSeconds now
      else
        return none

/-- `claim_processing_job`. -/
def claimProcessingJob (jobId : UUID) (workerId : String) (now : Time)
    (leaseSeconds : Int := 60) : Repo (Option TelemetryWorkItem) :=
  if workerId.isEmpty then
    raise (.valueError "worker_id must not be empty")
  else if leaseSeconds ≤ 0 then
    raise (.valueError "lease_seconds must be positive")
  else
    transaction (claimProcessingJobTransaction jobId workerId leaseSeconds now)

/-- The transaction of `complete_processing_job`. -/
def completeProcessingJobTransaction (jobId : UUID) (result : ProcessingResultValues)
    (workerId : String) (completionTime : Time) : Txn ProcessedTelemetry := do
  let found : Option TelemetryProcessingJob ← sql (.selectJob jobId true)
  match found with
  | none => raise (.processingJobNotFound jobId)
  | some job =>
    let foundProcessed : Option ProcessedTelemetry ← sql (.selectProcessed job.packetId)
    match foundProcessed with
    | some existing =>
      if !sameProcessingResult existing result then
        raise (.processingResultConflict
          ("packet " ++ job.packetId ++ " already has a different processed result"))
      else
        sql (.updateJob (closedJob job existing))
        return existing
    | none =>
      if job.state ≠ .processing then
        raise (.invalidDeliveryState
          ("cannot complete a " ++ job.state.value ++ " processing job"))
      else if job.claimedBy ≠ some workerId then
        raise (.invalidDeliveryState "processing job is owned by another worker")
      else
        sql (.updateJob (completedJob job completionTime))
        sql (.insertProcessed (processedRow job result completionTime))
        audit (completedEvent job result workerId)
        return processedRow job result completionTime

/-- `complete_processing_job`. -/
def completeProcessingJob (jobId : UUID) (result : ProcessingResultValues) (workerId : String)
    (completionTime : Time) : Repo ProcessedTelemetry :=
  transaction (completeProcessingJobTransaction jobId result workerId completionTime)

/-- The transaction of `fail_processing_attempt`. -/
def failProcessingAttemptTransaction (jobId : UUID) (workerId reason : String) (temporary : Bool)
    (baseBackoffSeconds : Int) (failureTime : Time) : Txn ProcessingFailureResult := do
  let found : Option TelemetryProcessingJob ← sql (.selectJob jobId true)
  match found with
  | none => raise (.processingJobNotFound jobId)
  | some job =>
    if job.state = .failed then
      return failureResult job none
    else if job.state ≠ .processing then
      raise (.invalidDeliveryState ("cannot fail a " ++ job.state.value ++ " processing job"))
    else if job.claimedBy ≠ some workerId then
      raise (.invalidDeliveryState "processing job is owned by another worker")
    else
      let after := jobAfterFailure job reason temporary baseBackoffSeconds failureTime
      sql (.updateJob after)
      audit (failureEvent after reason workerId)
      return failureResult after after.nextAttemptAt

/-- `fail_processing_attempt`. -/
def failProcessingAttempt (jobId : UUID) (workerId reason : String) (temporary : Bool)
    (failureTime : Time) (baseBackoffSeconds : Int := 1) : Repo ProcessingFailureResult :=
  if baseBackoffSeconds ≤ 0 then
    raise (.valueError "base_backoff_seconds must be positive")
  else
    transaction (failProcessingAttemptTransaction jobId workerId reason temporary
      baseBackoffSeconds failureTime)

/-- `get_delivery`. -/
def getDelivery (receiptId : UUID) : Repo (Option TelemetryDeliveryReceipt) :=
  transaction (sql (.selectReceipt receiptId false))

/-- `get_packet`. -/
def getPacket (packetId : String) : Repo (Option LogicalTelemetryPacket) :=
  transaction (sql (.selectPacket packetId))

/-- `get_processed`. -/
def getProcessed (packetId : String) : Repo (Option ProcessedTelemetry) :=
  transaction (sql (.selectProcessed packetId))

/-- `get_job`. -/
def getJob (jobId : UUID) : Repo (Option TelemetryProcessingJob) :=
  transaction (sql (.selectJob jobId false))

/-- `get_job_for_packet`. -/
def getJobForPacket (packetId : String) : Repo (Option TelemetryProcessingJob) :=
  transaction (sql (.selectJobByPacket packetId))

/-- `list_audit_events`. -/
def listAuditEvents (limit : Nat) : Repo (List TelemetryAuditEvent) :=
  if ¬(1 ≤ limit ∧ limit ≤ 1000) then
    raise (.valueError "limit must be between 1 and 1000")
  else
    transaction (sql (.selectAuditEvents limit))

/-- `processing_queue_depth`. -/
def processingQueueDepth : Repo Nat :=
  transaction (sql (.countJobs TelemetryProcessingJob.isOpen))

end Cislunar

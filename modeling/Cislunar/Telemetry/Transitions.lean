import Cislunar.Runtime.Hash
import Cislunar.Telemetry.Database

/-! The rows, audit events and answers that the repository operations write and return. -/

namespace Cislunar

/-- `_delivery_result`. -/
def deliveryResult (receipt : TelemetryDeliveryReceipt) (requestReplay requestConflict : Bool) :
    DeliveryRecordResult where
  receiptId := receipt.receiptId
  validationStatus := receipt.validationStatus
  queueStatus := receipt.queueStatus
  requestReplay := requestReplay
  requestConflict := requestConflict
  duplicateOfReceiptId := receipt.duplicateOfReceiptId
  logicalPacketId := receipt.logicalPacketId

/-- The arguments of `record_delivery` that become columns of the receipt. -/
structure Delivery where
  rawBody : Bytes
  peerCertificateIdentity : String
  presentedRequestId : Option String
  canonicalRequestId : Option UUID
  contentType : Option String
  receivedAt : Time
  vendorSentAt : Option Time := none
  deriving DecidableEq, Repr

/-- The receipt of a delivery, in conflict with the first receipt of its identifier if any. -/
def Delivery.receipt (delivery : Delivery) (receiptId : UUID)
    (firstReceipt : Option TelemetryDeliveryReceipt) : TelemetryDeliveryReceipt where
  receiptId := receiptId
  presentedRequestId := delivery.presentedRequestId
  canonicalRequestId := delivery.canonicalRequestId
  peerCertificateIdentity := delivery.peerCertificateIdentity
  contentType := delivery.contentType
  vendorSentAt := delivery.vendorSentAt
  receivedAt := delivery.receivedAt
  rawBody := delivery.rawBody
  rawBodySize := delivery.rawBody.length
  bodySha256 := sha256Hex delivery.rawBody
  validationStatus := if firstReceipt.isSome then .conflict else .pending
  rejectionReason :=
    if firstReceipt.isSome then some "REQUEST_ID_REUSED_WITH_DIFFERENT_BODY" else none
  duplicateOfReceiptId := firstReceipt.map (·.receiptId)
  queueStatus := .notApplicable

/-- The audit event of a recorded delivery. -/
def Delivery.auditEvent (delivery : Delivery) (receipt : TelemetryDeliveryReceipt)
    (conflict : Bool) : TelemetryAuditEvent where
  serviceName := "ground-api"
  eventName :=
    if conflict then "telemetry.delivery.request_id_conflict" else "telemetry.delivery.received"
  actorIdentity := delivery.peerCertificateIdentity
  outcome := if conflict then "CONFLICT" else "RECORDED"
  reason := receipt.rejectionReason
  receiptId := some receipt.receiptId
  eventData := [("body_sha256", .text receipt.bodySha256),
    ("raw_body_size", .int delivery.rawBody.length)]

/-- A receipt whose bytes failed validation. -/
def rejectedReceipt (receipt : TelemetryDeliveryReceipt) (reason : String)
    (parsedIdentifiers : Option JsonObject) : TelemetryDeliveryReceipt :=
  { receipt with
    validationStatus := .rejected
    rejectionReason := some reason
    parsedIdentifiers := parsedIdentifiers
    queueStatus := .notApplicable }

/-- The audit event of a rejection. -/
def rejectedEvent (receiptId : UUID) (reason : String) (parsedIdentifiers : Option JsonObject)
    (actorIdentity : String) : TelemetryAuditEvent where
  serviceName := "ground-api"
  eventName := "telemetry.delivery.rejected"
  actorIdentity := actorIdentity
  outcome := "REJECTED"
  reason := some reason
  receiptId := some receiptId
  eventData := parsedIdentifiers.getD []

/-- The answer for a receipt whose acceptance was settled before. -/
def replayedAcceptance (receipt : TelemetryDeliveryReceipt)
    (packet : Option LogicalTelemetryPacket) (job : Option TelemetryProcessingJob) :
    PacketAcceptanceResult where
  receiptId := receipt.receiptId
  packetId := receipt.logicalPacketId
  jobId := job.map (·.jobId)
  validationStatus := receipt.validationStatus
  queueStatus := (job.map fun found => jobStateToQueueStatus found.state).getD receipt.queueStatus
  sequenceDisposition := packet.map (·.sequenceDisposition)
  missingBefore := (packet.map (·.missingBefore)).getD 0
  duplicate := receipt.validationStatus = .duplicate
  conflict := false
  duplicateOfReceiptId := receipt.duplicateOfReceiptId

/-- A receipt linked to the packet that already has its source key. -/
def linkedReceipt (receipt : TelemetryDeliveryReceipt) (values : DecodedTelemetryValues)
    (existing : LogicalTelemetryPacket) : TelemetryDeliveryReceipt :=
  { receipt with
    logicalPacketId := some existing.packetId
    duplicateOfReceiptId := some existing.sourceReceiptId
    parsedIdentifiers := some values.identifiers }

/-- `exact_duplicate`. -/
def isExactDuplicate (receipt : TelemetryDeliveryReceipt) (existing : LogicalTelemetryPacket)
    (origin : Option TelemetryDeliveryReceipt) : Bool :=
  origin.any fun source =>
    existing.rawSha256 = receipt.bodySha256 ∧ source.rawBody = receipt.rawBody

/-- The receipt of an exact duplicate of a packet. -/
def duplicateReceipt (receipt : TelemetryDeliveryReceipt) (values : DecodedTelemetryValues)
    (existing : LogicalTelemetryPacket) : TelemetryDeliveryReceipt :=
  { linkedReceipt receipt values existing with
    validationStatus := .duplicate
    queueStatus := .notApplicable
    rejectionReason := none }

/-- The audit event of an exact duplicate. -/
def duplicateEvent (receipt : TelemetryDeliveryReceipt) (existing : LogicalTelemetryPacket)
    (existingJob : Option TelemetryProcessingJob) (actorIdentity : String) :
    TelemetryAuditEvent where
  serviceName := "ground-api"
  eventName := "telemetry.delivery.duplicate"
  actorIdentity := actorIdentity
  outcome := "DUPLICATE"
  receiptId := some receipt.receiptId
  packetId := some existing.packetId
  jobId := existingJob.map (·.jobId)
  eventData := [("original_receipt_id", .text existing.sourceReceiptId.str)]

/-- The receipt of a delivery with other bytes under a used source key. -/
def sequenceConflictReceipt (receipt : TelemetryDeliveryReceipt) (values : DecodedTelemetryValues)
    (existing : LogicalTelemetryPacket) : TelemetryDeliveryReceipt :=
  { linkedReceipt receipt values existing with
    validationStatus := .conflict
    queueStatus := .notApplicable
    rejectionReason := some "SEQUENCE_CONFLICT" }

/-- The audit event of other bytes under a used source key. -/
def sequenceConflictEvent (receipt : TelemetryDeliveryReceipt) (existing : LogicalTelemetryPacket)
    (actorIdentity : String) : TelemetryAuditEvent where
  serviceName := "ground-api"
  eventName := "telemetry.delivery.sequence_conflict"
  actorIdentity := actorIdentity
  outcome := "CONFLICT"
  reason := some "SEQUENCE_CONFLICT"
  receiptId := some receipt.receiptId
  packetId := some existing.packetId

/-- The answer for an exact duplicate. -/
def duplicateResult (receipt : TelemetryDeliveryReceipt) (existing : LogicalTelemetryPacket)
    (existingJob : Option TelemetryProcessingJob) : PacketAcceptanceResult where
  receiptId := receipt.receiptId
  packetId := some existing.packetId
  jobId := existingJob.map (·.jobId)
  validationStatus := .duplicate
  queueStatus :=
    (existingJob.map fun job => jobStateToQueueStatus job.state).getD .notApplicable
  sequenceDisposition := some existing.sequenceDisposition
  missingBefore := existing.missingBefore
  duplicate := true
  conflict := false
  duplicateOfReceiptId := some existing.sourceReceiptId

/-- The answer for other bytes under a used source key. -/
def sequenceConflictResult (receipt : TelemetryDeliveryReceipt)
    (existing : LogicalTelemetryPacket) : PacketAcceptanceResult where
  receiptId := receipt.receiptId
  packetId := some existing.packetId
  jobId := none
  validationStatus := .conflict
  queueStatus := .notApplicable
  sequenceDisposition := none
  missingBefore := 0
  duplicate := false
  conflict := true
  duplicateOfReceiptId := some existing.sourceReceiptId

/-- `forward_distance`. -/
def forwardDistance (sequenceNumber highWaterSequence : Int) : Int :=
  Int.land (sequenceNumber - highWaterSequence) maxUint32

/-- Disposition and missing count of a new packet; none where it stands on the high-water mark. -/
def sequencePosition (sequenceNumber : Int) :
    Option TelemetrySequenceState → Option (PacketDisposition × Int)
  | none => some (.first, sequenceNumber)
  | some state =>
    let distance := forwardDistance sequenceNumber state.highWaterSequence
    if distance = 0 then none
    else if distance = 1 then some (.inOrder, 0)
    else if distance < halfUint32Range then some (.gap, distance - 1)
    else some (.late, 0)

/-- The receipt of a delivery that stands on a high-water mark whose packet is missing. -/
def stateConflictReceipt (receipt : TelemetryDeliveryReceipt) (values : DecodedTelemetryValues) :
    TelemetryDeliveryReceipt :=
  { receipt with
    validationStatus := .conflict
    rejectionReason := some "SEQUENCE_STATE_CONFLICT"
    parsedIdentifiers := some values.identifiers }

/-- The audit event of a high-water mark whose packet is missing. -/
def stateConflictEvent (receipt : TelemetryDeliveryReceipt) (actorIdentity : String) :
    TelemetryAuditEvent where
  serviceName := "ground-api"
  eventName := "telemetry.sequence.state_conflict"
  actorIdentity := actorIdentity
  outcome := "CONFLICT"
  reason := some "SEQUENCE_STATE_CONFLICT"
  receiptId := some receipt.receiptId

/-- The answer for a high-water mark whose packet is missing. -/
def stateConflictResult (receipt : TelemetryDeliveryReceipt) : PacketAcceptanceResult where
  receiptId := receipt.receiptId
  packetId := none
  jobId := none
  validationStatus := .conflict
  queueStatus := .notApplicable
  sequenceDisposition := none
  missingBefore := 0
  duplicate := false
  conflict := true
  duplicateOfReceiptId := none

/-- The logical packet of a receipt. -/
def newPacket (receipt : TelemetryDeliveryReceipt) (values : DecodedTelemetryValues)
    (disposition : PacketDisposition) (missingBefore : Int) : LogicalTelemetryPacket where
  packetId := values.packetId
  sourceReceiptId := receipt.receiptId
  values := values
  rawSha256 := receipt.bodySha256
  sequenceDisposition := disposition
  missingBefore := missingBefore

/-- The sequence state of a session's first packet. -/
def firstState (values : DecodedTelemetryValues) (missingBefore : Int) :
    TelemetrySequenceState where
  payloadId := values.payloadId
  bootId := values.bootId
  highWaterSequence := values.sequenceNumber
  acceptedPacketCount := 1
  missingPacketCount := missingBefore
  lastHighWaterPacketId := values.packetId

/-- The sequence state after one more packet of its session. -/
def TelemetrySequenceState.count (state : TelemetrySequenceState)
    (values : DecodedTelemetryValues) (disposition : PacketDisposition) (missingBefore : Int) :
    TelemetrySequenceState :=
  let counted := { state with acceptedPacketCount := state.acceptedPacketCount + 1 }
  -- A late packet leaves the mark where it is.
  if disposition ∈ [.inOrder, .gap] then
    { counted with
      highWaterSequence := values.sequenceNumber
      missingPacketCount := state.missingPacketCount + missingBefore
      lastHighWaterPacketId := values.packetId }
  else counted

/-- The processing job of a new packet. -/
def newJob (jobId : UUID) (packetId : String) (maxAttempts : Int) (now : Time) :
    TelemetryProcessingJob where
  jobId := jobId
  packetId := packetId
  state := .pendingQueue
  maxAttempts := maxAttempts
  createdAt := now

/-- The receipt of a packet that was accepted. -/
def acceptedReceipt (receipt : TelemetryDeliveryReceipt) (values : DecodedTelemetryValues) :
    TelemetryDeliveryReceipt :=
  { receipt with
    validationStatus := .accepted
    rejectionReason := none
    parsedIdentifiers := some values.identifiers
    logicalPacketId := some values.packetId
    queueStatus := .pendingQueue }

/-- The audit event of a new packet. -/
def acceptedEvent (receipt : TelemetryDeliveryReceipt) (values : DecodedTelemetryValues)
    (disposition : PacketDisposition) (missingBefore : Int) (jobId : UUID)
    (actorIdentity : String) : TelemetryAuditEvent where
  serviceName := "ground-api"
  eventName := "telemetry.packet.accepted"
  actorIdentity := actorIdentity
  outcome := "PENDING_QUEUE"
  receiptId := some receipt.receiptId
  packetId := some values.packetId
  jobId := some jobId
  eventData := [("sequence_disposition", .text disposition.value),
    ("missing_before", .int missingBefore)]

/-- The answer for a new packet. -/
def acceptedResult (receipt : TelemetryDeliveryReceipt) (values : DecodedTelemetryValues)
    (jobId : UUID) (disposition : PacketDisposition) (missingBefore : Int) :
    PacketAcceptanceResult where
  receiptId := receipt.receiptId
  packetId := some values.packetId
  jobId := some jobId
  validationStatus := .accepted
  queueStatus := .pendingQueue
  sequenceDisposition := some disposition
  missingBefore := missingBefore
  duplicate := false
  conflict := false
  duplicateOfReceiptId := none

/-- What the caller of an acceptance chooses besides the receipt and its values. -/
structure AcceptanceOptions where
  maxAttempts : Int := 3
  actorIdentity : String := "ground-api"
  /-- `utc_now()` at the creation of the job. -/
  now : Time
  deriving DecidableEq, Repr

/-- A job whose reference Redis has accepted. -/
def queuedJob (job : TelemetryProcessingJob) (queueMessageId : String) : TelemetryProcessingJob :=
  { job with
    state := .queued
    queueMessageId := some queueMessageId
    nextAttemptAt := none }

/-- The audit event of a queued job. -/
def queuedEvent (job : TelemetryProcessingJob) (queueMessageId actorIdentity : String) :
    TelemetryAuditEvent where
  serviceName := "ground-api"
  eventName := "telemetry.processing.queued"
  actorIdentity := actorIdentity
  outcome := "QUEUED"
  packetId := some job.packetId
  jobId := some job.jobId
  eventData := [("queue_message_id", .text queueMessageId)]

/-- A claimed job that a processed result closes. -/
def closedJob (job : TelemetryProcessingJob) (processed : ProcessedTelemetry) :
    TelemetryProcessingJob :=
  { job with
    state := .complete
    completedAt := some processed.processedAt
    leaseExpiresAt := none }

/-- A job in the hands of a worker. -/
def claimedJob (job : TelemetryProcessingJob) (workerId : String) (leaseSeconds : Int)
    (now : Time) : TelemetryProcessingJob :=
  { job with
    state := .processing
    attemptCount := job.attemptCount + 1
    claimedBy := some workerId
    claimedAt := some now
    leaseExpiresAt := some (now + secondsUs leaseSeconds)
    nextAttemptAt := none }

/-- Whether a claim may take a job: queued, or left behind by an expired lease or a due retry. -/
def isClaimable (job : TelemetryProcessingJob) (now : Time) : Bool :=
  job.state = .queued ∨ (job.state = .processing ∧ isDue job.leaseExpiresAt now) ∨
    (job.state = .retryWait ∧ isDue job.nextAttemptAt now)

/-- The work item of a claimed job. -/
def workItem (claimed : TelemetryProcessingJob) (packet : LogicalTelemetryPacket)
    (receipt : TelemetryDeliveryReceipt) : TelemetryWorkItem where
  jobId := claimed.jobId
  packetId := packet.packetId
  rawBody := receipt.rawBody
  receivedAt := receipt.receivedAt
  values := packet.values
  attemptCount := claimed.attemptCount
  maxAttempts := claimed.maxAttempts

/-- The audit event of a claim. -/
def claimedEvent (claimed : TelemetryProcessingJob) (packet : LogicalTelemetryPacket)
    (receipt : TelemetryDeliveryReceipt) (workerId : String) : TelemetryAuditEvent where
  serviceName := "payload-worker"
  eventName := "telemetry.processing.claimed"
  actorIdentity := workerId
  outcome := "PROCESSING"
  receiptId := some receipt.receiptId
  packetId := some packet.packetId
  jobId := some claimed.jobId
  eventData := [("attempt_count", .int claimed.attemptCount)]

/-- A job completed with a new result. -/
def completedJob (job : TelemetryProcessingJob) (completionTime : Time) : TelemetryProcessingJob :=
  { job with
    state := .complete
    completedAt := some completionTime
    leaseExpiresAt := none
    nextAttemptAt := none
    lastError := none }

/-- The stored result of a job. -/
def processedRow (job : TelemetryProcessingJob) (result : ProcessingResultValues)
    (completionTime : Time) : ProcessedTelemetry where
  packetId := job.packetId
  processingJobId := job.jobId
  values := result
  processedAt := completionTime

/-- The audit event of a completed job. -/
def completedEvent (job : TelemetryProcessingJob) (result : ProcessingResultValues)
    (workerId : String) : TelemetryAuditEvent where
  serviceName := "payload-worker"
  eventName := "telemetry.processing.completed"
  actorIdentity := workerId
  outcome := "COMPLETE"
  packetId := some job.packetId
  jobId := some job.jobId
  eventData := [("classification", .text result.classification.value),
    ("is_stale", .bool result.isStale)]

/-- A job given up for good. -/
def failedJob (job : TelemetryProcessingJob) (reason : String) (failureTime : Time) :
    TelemetryProcessingJob :=
  { job with
    lastError := some reason
    leaseExpiresAt := none
    state := .failed
    failedAt := some failureTime
    nextAttemptAt := none }

/-- Seconds until the next attempt. -/
def backoffDelay (baseBackoffSeconds : Int) (attemptCount : Nat) : Int :=
  min (baseBackoffSeconds * 2 ^ (attemptCount - 1)) 300

/-- A job that waits for its next attempt. -/
def retryingJob (job : TelemetryProcessingJob) (reason : String) (baseBackoffSeconds : Int)
    (failureTime : Time) : TelemetryProcessingJob :=
  { job with
    lastError := some reason
    leaseExpiresAt := none
    state := .retryWait
    nextAttemptAt :=
      some (failureTime + secondsUs (backoffDelay baseBackoffSeconds job.attemptCount)) }

/-- The job after a failed attempt: given up when the failure is permanent or the last one. -/
def jobAfterFailure (job : TelemetryProcessingJob) (reason : String) (temporary : Bool)
    (baseBackoffSeconds : Int) (failureTime : Time) : TelemetryProcessingJob :=
  if !temporary ∨ (job.attemptCount : Int) ≥ job.maxAttempts then
    failedJob job reason failureTime
  else
    retryingJob job reason baseBackoffSeconds failureTime

/-- The audit event of a failed attempt, from the job it leaves. -/
def failureEvent (after : TelemetryProcessingJob) (reason workerId : String) :
    TelemetryAuditEvent where
  serviceName := "payload-worker"
  eventName :=
    if after.state = .failed then "telemetry.processing.failed"
    else "telemetry.processing.retry_scheduled"
  actorIdentity := workerId
  outcome := after.state.value
  reason := some reason
  packetId := some after.packetId
  jobId := some after.jobId
  eventData := [("attempt_count", .int after.attemptCount),
    ("max_attempts", .int after.maxAttempts),
    ("next_attempt_at", (after.nextAttemptAt.map JsonScalar.instant).getD .null)]

/-- The answer to a failed attempt. -/
def failureResult (job : TelemetryProcessingJob) (nextAttemptAt : Option Time) :
    ProcessingFailureResult where
  jobId := job.jobId
  state := job.state
  attemptCount := job.attemptCount
  nextAttemptAt := nextAttemptAt

end Cislunar

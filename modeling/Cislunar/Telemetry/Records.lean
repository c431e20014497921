import Cislunar.Telemetry.Health
import Cislunar.Runtime.Uuid

/-! Durable telemetry records, and the values passed in and out of the repository. -/

namespace Cislunar

/-- Result of validating one authenticated, size-bounded delivery. -/
inductive DeliveryValidationStatus where
  | pending
  | accepted
  | rejected
  | duplicate
  | conflict
  deriving DecidableEq, Repr

/-- The persisted text of a status. -/
def DeliveryValidationStatus.value : DeliveryValidationStatus → String
  | pending => "PENDING"
  | accepted => "ACCEPTED"
  | rejected => "REJECTED"
  | duplicate => "DUPLICATE"
  | conflict => "CONFLICT"

/-- Whether a delivery's one logical processing job reached Redis. -/
inductive DeliveryQueueStatus where
  | notApplicable
  | pendingQueue
  | queued
  deriving DecidableEq, Repr

/-- Persisted name for a packet's position in its boot session. -/
inductive PacketDisposition where
  | first
  | inOrder
  | gap
  | late
  deriving DecidableEq, Repr

/-- The persisted text of a disposition. -/
def PacketDisposition.value : PacketDisposition → String
  | first => "FIRST"
  | inOrder => "IN_ORDER"
  | gap => "GAP"
  | late => "LATE"

/-- Durable lifecycle of asynchronous payload-processing work. -/
inductive ProcessingJobState where
  | pendingQueue
  | queued
  | processing
  | retryWait
  | complete
  | failed
  deriving DecidableEq, Repr

/-- The persisted text of a job state. -/
def ProcessingJobState.value : ProcessingJobState → String
  | pendingQueue => "PENDING_QUEUE"
  | queued => "QUEUED"
  | processing => "PROCESSING"
  | retryWait => "RETRY_WAIT"
  | complete => "COMPLETE"
  | failed => "FAILED"

/-- Values that appear in stored JSON objects. -/
inductive JsonScalar where
  | null
  | bool (value : Bool)
  | int (value : Int)
  | text (value : String)
  /-- `isoformat()` of an instant. -/
  | instant (value : Time)
  deriving DecidableEq, Repr

/-- A stored JSON object, in the order its keys were written. -/
abbrev JsonObject := List (String × JsonScalar)

/-- Validated wire values passed from the codec into persistence. -/
structure DecodedTelemetryValues where
  protocolVersion : Int
  payloadId : Int
  bootId : Int
  sequenceNumber : Int
  sampleTimestampUs : Int
  temperatureCentiC : Int
  voltageMv : Int
  operatingMode : Int
  faultFlags : Int
  deriving DecidableEq, Repr

namespace DecodedTelemetryValues

/-- `packet_id`. -/
def packetId (values : DecodedTelemetryValues) : String :=
  packetIdText values.payloadId values.bootId values.sequenceNumber

/-- The unique source key of the logical packet. -/
def sourceKey (values : DecodedTelemetryValues) : Int × Int × Int :=
  (values.payloadId, values.bootId, values.sequenceNumber)

/-- `identifiers()`. -/
def identifiers (values : DecodedTelemetryValues) : JsonObject :=
  [("packet_id", .text values.packetId), ("protocol_version", .int values.protocolVersion),
    ("payload_id", .int values.payloadId), ("boot_id", .int values.bootId),
    ("sequence_number", .int values.sequenceNumber),
    ("sample_timestamp_us", .int values.sampleTimestampUs)]

end DecodedTelemetryValues

/-- Exact evidence for one vendor-to-ground request body. -/
structure TelemetryDeliveryReceipt where
  receiptId : UUID
  presentedRequestId : Option String
  canonicalRequestId : Option UUID
  peerCertificateIdentity : String
  contentType : Option String
  vendorSentAt : Option Time
  receivedAt : Time
  rawBody : Bytes
  rawBodySize : Nat
  bodySha256 : String
  validationStatus : DeliveryValidationStatus := .pending
  rejectionReason : Option String := none
  parsedIdentifiers : Option JsonObject := none
  duplicateOfReceiptId : Option UUID := none
  -- Deliberately not a foreign key: the receipt is saved before its packet exists.
  logicalPacketId : Option String := none
  queueStatus : DeliveryQueueStatus := .notApplicable
  deriving DecidableEq, Repr

/-- Idempotency ledger entry: only the first body owns a request identifier. -/
structure TelemetryRequestIdentity where
  requestId : UUID
  firstReceiptId : UUID
  bodySha256 : String
  deriving DecidableEq, Repr

/-- One processable packet for a unique payload, boot and sequence key. -/
structure LogicalTelemetryPacket where
  packetId : String
  sourceReceiptId : UUID
  /-- The nine columns of decoded wire values. -/
  values : DecodedTelemetryValues
  rawSha256 : String
  sequenceDisposition : PacketDisposition
  missingBefore : Int
  deriving DecidableEq, Repr

/-- Persistent sequence high-water mark for one payload boot session. -/
structure TelemetrySequenceState where
  payloadId : Int
  bootId : Int
  highWaterSequence : Int
  acceptedPacketCount : Int
  missingPacketCount : Int
  lastHighWaterPacketId : String
  deriving DecidableEq, Repr

/-- The primary key of a sequence state. -/
def TelemetrySequenceState.session (state : TelemetrySequenceState) : Int × Int :=
  (state.payloadId, state.bootId)

/-- The session a packet belongs to. -/
def LogicalTelemetryPacket.session (packet : LogicalTelemetryPacket) : Int × Int :=
  (packet.values.payloadId, packet.values.bootId)

/-- Durable work state; Redis carries this row's identifier, not raw data. -/
structure TelemetryProcessingJob where
  jobId : UUID
  packetId : String
  state : ProcessingJobState := .pendingQueue
  queueMessageId : Option String := none
  attemptCount : Nat := 0
  maxAttempts : Int := 3
  claimedBy : Option String := none
  claimedAt : Option Time := none
  leaseExpiresAt : Option Time := none
  nextAttemptAt : Option Time := none
  lastError : Option String := none
  failedAt : Option Time := none
  completedAt : Option Time := none
  createdAt : Time
  deriving DecidableEq, Repr

/-- The engineering values a worker computes for one packet. -/
structure ProcessingResultValues where
  temperatureC : Rat
  voltageV : Rat
  operatingMode : String
  faultNames : List String
  classification : HealthClassification
  isStale : Bool
  processorVersion : String := "telemetry-v1"
  deriving DecidableEq, Repr

/-- One idempotent engineering result for one logical packet. -/
structure ProcessedTelemetry where
  packetId : String
  processingJobId : UUID
  /-- The seven columns of engineering values. -/
  values : ProcessingResultValues
  processedAt : Time
  deriving DecidableEq, Repr

/-- Permanent history of a significant state change. -/
structure TelemetryAuditEvent where
  serviceName : String
  eventName : String
  actorIdentity : String
  outcome : String
  reason : Option String := none
  receiptId : Option UUID := none
  packetId : Option String := none
  jobId : Option UUID := none
  eventData : JsonObject := []
  deriving DecidableEq, Repr

/-- `DeliveryRecordResult`. -/
structure DeliveryRecordResult where
  receiptId : UUID
  validationStatus : DeliveryValidationStatus
  queueStatus : DeliveryQueueStatus
  requestReplay : Bool
  requestConflict : Bool
  duplicateOfReceiptId : Option UUID
  logicalPacketId : Option String
  deriving DecidableEq, Repr

/-- `PacketAcceptanceResult`. -/
structure PacketAcceptanceResult where
  receiptId : UUID
  packetId : Option String
  jobId : Option UUID
  validationStatus : DeliveryValidationStatus
  queueStatus : DeliveryQueueStatus
  sequenceDisposition : Option PacketDisposition
  missingBefore : Int
  duplicate : Bool
  conflict : Bool
  duplicateOfReceiptId : Option UUID
  deriving DecidableEq, Repr

/-- `TelemetryWorkItem`. -/
structure TelemetryWorkItem where
  jobId : UUID
  packetId : String
  rawBody : Bytes
  receivedAt : Time
  values : DecodedTelemetryValues
  attemptCount : Nat
  maxAttempts : Int
  deriving DecidableEq, Repr

/-- `ProcessingFailureResult`. -/
structure ProcessingFailureResult where
  jobId : UUID
  state : ProcessingJobState
  attemptCount : Nat
  nextAttemptAt : Option Time
  deriving DecidableEq, Repr

/-- Everything a repository call can raise. -/
inductive StorageError where
  /-- A plain `ValueError`. -/
  | valueError (message : String)
  /-- `sqlalchemy.exc.IntegrityError`. -/
  | integrity
  /-- Any other `SQLAlchemyError`, such as an unreachable server. -/
  | database
  /-- `DeliveryNotFoundError`. -/
  | deliveryNotFound (receiptId : UUID)
  /-- `InvalidDeliveryStateError`. -/
  | invalidDeliveryState (message : String)
  /-- `ProcessingJobNotFoundError`. -/
  | processingJobNotFound (jobId : UUID)
  /-- `ProcessingResultConflictError`. -/
  | processingResultConflict (message : String)
  /-- A plain `TelemetryStorageError`. -/
  | storage (message : String)
  deriving DecidableEq, Repr

/-- `job_state_to_queue_status`. -/
def jobStateToQueueStatus (state : ProcessingJobState) : DeliveryQueueStatus :=
  if state = .pendingQueue then .pendingQueue else .queued

/-- Only a job in front of the queue is shown as such. -/
@[simp] theorem jobStateToQueueStatus_eq_pendingQueue {state : ProcessingJobState} :
    jobStateToQueueStatus state = .pendingQueue ↔ state = .pendingQueue := by
  cases state <;> simp [jobStateToQueueStatus]

/-- `_same_processing_result`. -/
def sameProcessingResult (stored : ProcessedTelemetry) (candidate : ProcessingResultValues) : Bool :=
  stored.values.temperatureC = candidate.temperatureC ∧
    stored.values.voltageV = candidate.voltageV ∧
    stored.values.operatingMode = candidate.operatingMode ∧
    stored.values.faultNames = candidate.faultNames ∧
    stored.values.classification = candidate.classification ∧
    stored.values.isStale = candidate.isStale ∧
    stored.values.processorVersion = candidate.processorVersion

end Cislunar

import Cislunar.Foundation.Regex
import Cislunar.Services.System

/-!
The gateway: `POST /vendor/payload-data` and the recovery of queue references at start-up.

Metrics and log lines are left out; they touch neither the tables nor the queue and their errors are
swallowed.
-/

namespace Cislunar

open Foundation Foundation.Prog

/-- `GroundSettings`; a value satisfies the checks of its constructor. -/
structure GroundSettings where
  vendorToken : String
  operatorToken : String
  adminToken : String
  maxTelemetryBodyBytes : Nat := 1024
  processingMaximumAttempts : Int := 3
  tokensPresent : vendorToken ≠ "" ∧ operatorToken ≠ "" ∧ adminToken ≠ ""
  tokensDistinct : [vendorToken, operatorToken, adminToken].Nodup
  bodyLimit : 1 ≤ maxTelemetryBodyBytes ∧ maxTelemetryBodyBytes ≤ 1024
  attemptLimit : 0 < processingMaximumAttempts

/-- What the handler reads of one HTTP request. -/
structure VendorRequest where
  vendorToken : Option String
  requestId : Option String
  contentType : Option String
  contentLength : Option String
  /-- The chunks of the body stream, in order. -/
  chunks : List Bytes

/-- A `JSONResponse`. -/
structure Response where
  statusCode : Nat
  content : JsonObject
  deriving DecidableEq, Repr

/-- `[0-9A-F]`. -/
def isUpperHex (char : Char) : Bool :=
  ('0' ≤ char ∧ char ≤ '9') ∨ ('A' ≤ char ∧ char ≤ 'F')

/-- `MESSAGE_ID_PATTERN`; `\d` takes every Unicode decimal digit. -/
def messageIdPattern : List Piece :=
  [.literal "TLM-P".toList, .repeated 2 fun char => (unicodeDecimal char).isSome,
    .literal "-B".toList, .repeated 8 isUpperHex,
    .literal "-S".toList, .repeated 8 isUpperHex, .textEnd]

/-- `VENDOR_IDENTITY`. -/
def vendorIdentity : String := "local-token:vendor-simulator"

/-- `_canonical_uuid4`. -/
def canonicalUuid4 (presented : Option String) : Option UUID := do
  let text ← presented
  let parsed ← parseUuid text.toList
  if parsed.version ≠ some 4 ∨ parsed.str ≠ text then none else some parsed

/-- `_telemetry_values`. -/
def telemetryValues (frame : TelemetryFrame OperatingMode) : DecodedTelemetryValues where
  protocolVersion := frame.protocolVersion
  payloadId := frame.payloadId
  bootId := frame.bootId
  sequenceNumber := frame.sequenceNumber
  sampleTimestampUs := frame.timestampUs
  temperatureCentiC := frame.temperatureCentiC
  voltageMv := frame.voltageMv
  operatingMode := frame.operatingMode.toInt
  faultFlags := frame.faultFlags

/-- Read chunks until the stream ends or the body is too long. -/
def readChunks (maximum : Nat) : Bytes → List Bytes → Option Bytes
  | body, [] => some body
  | body, chunk :: rest =>
    if maximum < (body ++ chunk).length then none else readChunks maximum (body ++ chunk) rest

/-- `_bounded_body`: the body, or the status code of the `HTTPException`. -/
def boundedBody (request : VendorRequest) (maximum : Nat) : Except Nat Bytes :=
  let read := match readChunks maximum [] request.chunks with
    | some body => .ok body
    | none => .error 413
  match request.contentLength with
  | none => read
  | some text =>
    match intBase10 text.toList with
    | none => .error 400
    | some length => if (maximum : Int) < length then .error 413 else read

/-- `hmac.compare_digest` of two strings. -/
def compareDigest (first second : String) : Except Failure Bool :=
  if first.toList.all (·.toNat < 128) ∧ second.toList.all (·.toNat < 128) then
    .ok (first = second)
  else .error (.type "comparing strings with non-ASCII characters is not supported")

/-- An `HTTPException` with its headers. -/
structure HttpException where
  statusCode : Nat
  detail : String
  headers : List (String × String)
  deriving DecidableEq, Repr

/-- The callers that a bearer credential tells apart. -/
inductive BearerIdentity where
  | operator
  | administrator
  deriving DecidableEq, Repr

/-- What the check of an `Authorization` header raises. -/
inductive BearerError where
  | http (exception : HttpException)
  | failure (failure : Failure)
  deriving DecidableEq, Repr

/-- The exception that asks for a bearer credential. -/
def unauthorized (detail : String) : BearerError :=
  .http ⟨401, detail, [("WWW-Authenticate", "Bearer")]⟩

/-- `_bearer_identity`. -/
def bearerIdentity (authorization : Option String) (settings : GroundSettings) :
    Except BearerError BearerIdentity :=
  match authorization with
  | none => .error (unauthorized "missing bearer credential")
  | some text =>
    if !"Bearer ".toList.isPrefixOf text.toList then
      .error (unauthorized "missing bearer credential")
    else do
      let token := String.ofList (text.toList.drop "Bearer ".length)
      let operator ← (compareDigest token settings.operatorToken).mapError .failure
      if operator then return .operator
      let administrator ← (compareDigest token settings.adminToken).mapError .failure
      if administrator then return .administrator
      .error (unauthorized "invalid bearer credential")

/-- `_audit_safely`. -/
def auditSafely (event : TelemetryAuditEvent) : Service Unit :=
  (do let _ ← callRepository (.recordAuditEvent event)).tryCatch fun failure =>
    if failure.isSqlAlchemy then return () else raise failure

/-- `_queue_one`, whose caller may hold the job. -/
def queueOne (jobId : UUID) (packetId : String) (job : Option TelemetryProcessingJob) :
    Service Bool := do
  match QueueMessage.new jobId packetId with
  | .error error => raise (.queue error)
  | .ok message =>
    let _ ← callQueue (.enqueue message)
    -- A reference that is already in Redis does not stop the durable transition.
    callRepository (.markJobQueued jobId jobId.str "ground-api") { job := job }

/-- The loop of `_recover_pending_jobs`. -/
def recoverJobs : List UUID → Service Nat
  | [] => return 0
  | jobId :: rest => do
    let found ← callRepository (.getJob jobId)
    match found with
    | none => recoverJobs rest
    | some job =>
      -- The loop variable keeps the job in the session until the mark.
      let transitioned ← queueOne job.jobId job.packetId (some job)
      let recovered ← recoverJobs rest
      return if transitioned then recovered + 1 else recovered

/-- `_recover_pending_jobs`. -/
def recoverPendingJobs (limit : Nat := 10000) : Service Nat := do
  let jobIds ← callRepository (.recoverableQueueJobs limit)
  recoverJobs jobIds

/-- The `X-Vendor-Token` is missing or wrong. -/
def refuseVendor (request : VendorRequest) : Service Response := do
  auditSafely {
    serviceName := "ground-api"
    eventName := "vendor.authentication.failed"
    actorIdentity := "unauthenticated"
    outcome := "REJECTED"
    reason := some "INVALID_VENDOR_TOKEN"
    eventData := [("presented_request_id", (request.requestId.map .text).getD .null)] }
  return ⟨401, [("status", .text "REJECTED"), ("reason", .text "INVALID_VENDOR_TOKEN")]⟩

/-- The body is refused at the size boundary. -/
def refuseBody (request : VendorRequest) (statusCode : Nat) : Service Response := do
  let reason := if statusCode = 413 then "BODY_TOO_LARGE" else "INVALID_CONTENT_LENGTH"
  auditSafely {
    serviceName := "ground-api"
    eventName := "telemetry.delivery.security_rejected"
    actorIdentity := vendorIdentity
    outcome := "REJECTED"
    reason := some reason
    eventData := [("presented_request_id", (request.requestId.map .text).getD .null)] }
  return ⟨statusCode, [("status", .text "REJECTED"), ("reason", .text reason)]⟩

/-- The answers that a replayed request takes from its receipt alone. -/
def answerReplay (receipt : TelemetryDeliveryReceipt) : Option Response :=
  if receipt.validationStatus = .rejected then
    some ⟨422, [("receipt_id", .text receipt.receiptId.str), ("status", .text "REJECTED"),
      ("reason", (receipt.rejectionReason.map .text).getD .null), ("request_replay", .bool true)]⟩
  else if (receipt.validationStatus = .accepted ∨ receipt.validationStatus = .duplicate) ∧
      receipt.queueStatus = .queued then
    some ⟨200, [("receipt_id", .text receipt.receiptId.str),
      ("packet_id", (receipt.logicalPacketId.map .text).getD .null), ("status", .text "QUEUED"),
      ("duplicate", .bool (receipt.validationStatus = .duplicate)), ("request_replay", .bool true)]⟩
  else none

/-- Whether a `Content-Type` names `application/octet-stream`, whatever its parameters are. -/
def isOctetStream (contentType : Option String) : Bool :=
  contentType.any fun text =>
    let media := (text.toList.takeWhile (· != ';')).dropWhile unicodeSpace
    (media.reverse.dropWhile unicodeSpace).reverse.map Char.toLower =
      "application/octet-stream".toList

/-- Reject a recorded delivery because of a header; a replayed one is held. -/
def rejectHeader (receiptId : UUID) (reason : String)
    (existing : Option TelemetryDeliveryReceipt) : Service Response := do
  let rejected ← callRepository (.rejectDelivery receiptId reason none "ground-api")
    { receipt := existing }
  return ⟨400, [("receipt_id", .text rejected.receiptId.str), ("status", .text "REJECTED"),
    ("reason", .text reason)]⟩

/-- Queue the job of a replayed receipt that was accepted and has not reached Redis. -/
def requeueReceipt (receipt : TelemetryDeliveryReceipt) (packetId : String) : Service Response := do
  let found ← callRepository (.getJobForPacket packetId)
  match found with
  | none => raise (.runtime "accepted packet has no processing job")
  | some job =>
    -- The receipt is held too, but of a receipt the mark sets one column, always to one value.
    let transitioned ← queueOne job.jobId job.packetId (some job)
    return ⟨if transitioned then 202 else 200, [("receipt_id", .text receipt.receiptId.str),
      ("packet_id", .text packetId), ("status", .text "QUEUED"), ("duplicate", .bool false),
      ("request_replay", .bool true)]⟩

/-- Answer an acceptance, and queue its job where that is still to be done. -/
def answerAcceptance (accepted : PacketAcceptanceResult) : Service Response :=
  let receiptId := ("receipt_id", JsonScalar.text accepted.receiptId.str)
  let packetId := ("packet_id", (accepted.packetId.map JsonScalar.text).getD .null)
  if accepted.conflict then
    return ⟨409, [receiptId, ("status", .text "CONFLICT"), ("reason", .text "SEQUENCE_CONFLICT")]⟩
  else if accepted.duplicate then do
    match accepted.queueStatus, accepted.jobId, accepted.packetId with
    -- The acceptance returned, and with it went its reference to the job.
    | .pendingQueue, some jobId, some packetId => let _ ← queueOne jobId packetId none
    | _, _, _ => pure ()
    return ⟨200, [receiptId, packetId, ("status", .text "DUPLICATE"), ("duplicate", .bool true)]⟩
  else
    match accepted.jobId, accepted.packetId with
    | some jobId, some queuedId => do
      let _ ← queueOne jobId queuedId none
      return ⟨202, [receiptId, packetId, ("status", .text "QUEUED"), ("duplicate", .bool false)]⟩
    | _, _ => raise (.runtime "accepted unique packet did not create a job")

/-- Decode a recorded delivery, then reject or accept it; a replayed one is held. -/
def validateDelivery (settings : GroundSettings) (receiptId : UUID) (rawBody : Bytes)
    (receivedAt : Time) (existing : Option TelemetryDeliveryReceipt) : Service Response :=
  match decodeTelemetry zlibCrc32 rawBody (.utc receivedAt) with
  | .error (.validation reason detail) => do
    let _ ← callRepository (.rejectDelivery receiptId reason.value none "ground-api")
      { receipt := existing }
    return ⟨422, [("receipt_id", .text receiptId.str), ("status", .text "REJECTED"),
      ("reason", .text reason.value), ("detail", .text detail)]⟩
  | .error error => raise (.codec error)
  | .ok frame => do
    let accepted ← callRepository (.acceptPacketAndCreateJob receiptId (telemetryValues frame)
      settings.processingMaximumAttempts "ground-api") { receipt := existing }
    answerAcceptance accepted

/-- The receipt that a replayed request finds. -/
def replayedReceipt (delivery : DeliveryRecordResult) :
    Service (Option TelemetryDeliveryReceipt) := do
  if delivery.requestReplay then
    let found ← callRepository (.getDelivery delivery.receiptId)
    match found with
    | none => raise (.runtime "request replay points to missing receipt")
    | some receipt => return some receipt
  else return none

/-- The packet of a replayed receipt that was accepted and has not reached Redis. -/
def unqueuedPacket (receipt : TelemetryDeliveryReceipt) : Option String :=
  if receipt.validationStatus = .accepted ∧ receipt.queueStatus = .pendingQueue then
    receipt.logicalPacketId
  else none

/-- The part of the handler after the shortcuts of a replay. -/
def checkDelivery (settings : GroundSettings) (request : VendorRequest) (rawBody : Bytes)
    (receivedAt : Time) (receiptId : UUID) (existing : Option TelemetryDeliveryReceipt) :
    Service Response :=
  if !isOctetStream request.contentType then
    rejectHeader receiptId "INVALID_CONTENT_TYPE" existing
  else if (canonicalUuid4 request.requestId).isNone then
    rejectHeader receiptId "INVALID_REQUEST_ID" existing
  else
    match existing, existing.bind unqueuedPacket with
    | some receipt, some packetId => requeueReceipt receipt packetId
    | _, _ => validateDelivery settings receiptId rawBody receivedAt existing

/-- The delivery of a request as it is recorded. -/
def VendorRequest.delivery (request : VendorRequest) (rawBody : Bytes) (receivedAt : Time) :
    Delivery where
  rawBody := rawBody
  peerCertificateIdentity := vendorIdentity
  presentedRequestId := request.requestId
  canonicalRequestId := canonicalUuid4 request.requestId
  contentType := request.contentType
  receivedAt := receivedAt

/-- The part of the handler that runs in one database session. -/
def deliver (settings : GroundSettings) (request : VendorRequest) (rawBody : Bytes)
    (receivedAt : Time) : Service Response := do
  let delivery ← callRepository (.recordDelivery (request.delivery rawBody receivedAt) none)
  if delivery.requestConflict then
    return ⟨409, [("receipt_id", .text delivery.receiptId.str), ("status", .text "CONFLICT"),
      ("reason", .text "REQUEST_ID_REUSED_WITH_DIFFERENT_BODY")]⟩
  else
    let existing ← replayedReceipt delivery
    match existing.bind answerReplay with
    | some response => return response
    | none => checkDelivery settings request rawBody receivedAt delivery.receiptId existing

/-- The answer to an unreachable store; every other exception escapes the handler. -/
def answerUnavailable (failure : Failure) : Service Response :=
  if failure.isRedis then
    return ⟨503, [("status", .text "PENDING_QUEUE"), ("reason", .text "REDIS_UNAVAILABLE")]⟩
  else if failure.isSqlAlchemy then
    return ⟨503, [("status", .text "UNAVAILABLE"), ("reason", .text "POSTGRESQL_UNAVAILABLE")]⟩
  else raise failure

/-- The handler for a vendor whose token was accepted. -/
def receiveAuthenticated (settings : GroundSettings) (request : VendorRequest) :
    Service Response :=
  match boundedBody request settings.maxTelemetryBodyBytes with
  | .error statusCode => refuseBody request statusCode
  | .ok rawBody => do
    let receivedAt ← utcNow
    (deliver settings request rawBody receivedAt).tryCatch answerUnavailable

/-- `receive_payload_data`. -/
def receivePayloadData (settings : GroundSettings) (request : VendorRequest) : Service Response :=
  match request.vendorToken with
  | none => refuseVendor request
  | some token =>
    match compareDigest token settings.vendorToken with
    | .error failure => raise failure
    | .ok true => receiveAuthenticated settings request
    | .ok false => refuseVendor request

end Cislunar

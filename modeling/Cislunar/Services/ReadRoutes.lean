import Cislunar.Services.PayloadWorker

/-!
The routes of the gateway that read one message: `GET /payloads/{message_id}/raw` and
`GET /payloads/{message_id}/processed`.

Instants are kept as numbers where the source prints them with `isoformat()`.
-/

namespace Cislunar

open Foundation Foundation.Prog

/-- `bytes.hex()`. -/
def bytesHex (data : Bytes) : String :=
  String.ofList (data.flatMap fun byte => formatLowerHex 2 byte.toNat)

/-- The content of `get_raw_payload`. -/
structure RawView where
  messageId : String
  receiptId : String
  rawHex : String
  bodySha256 : String
  receivedAt : Time
  protocolVersion : Int
  payloadId : String
  bootId : Int
  sequenceNumber : Int
  sampleTime : Time
  sequenceDisposition : String
  missingBefore : Int
  processingState : Option String
  deriving DecidableEq, Repr

/-- The content of `get_processed_payload`. -/
structure ProcessedView where
  messageId : String
  temperatureC : Rat
  voltageV : Rat
  operatingMode : String
  faultNames : List String
  classification : String
  freshness : String
  processorVersion : String
  processedAt : Time
  deriving DecidableEq, Repr

/-- What a route that reads answers. -/
inductive ReadAnswer where
  | raw (view : RawView)
  | processed (view : ProcessedView)
  /-- There is no result, and the job of the message is in a state. -/
  | unprocessed (statusCode : Nat) (messageId processingState : String)
  | refused (exception : HttpException)
  /-- The server answers 500 for an exception that no handler catches. -/
  | serverError (failure : Failure)
  deriving DecidableEq, Repr

/-- What the raw route shows of a packet. -/
def rawView (packet : LogicalTelemetryPacket) (receipt : TelemetryDeliveryReceipt)
    (job : Option TelemetryProcessingJob) : RawView where
  messageId := packet.packetId
  receiptId := receipt.receiptId.str
  rawHex := bytesHex receipt.rawBody
  bodySha256 := receipt.bodySha256
  receivedAt := receipt.receivedAt
  protocolVersion := packet.values.protocolVersion
  payloadId := "PAYLOAD-" ++ String.ofList (formatDecimal 2 packet.values.payloadId)
  bootId := packet.values.bootId
  sequenceNumber := packet.values.sequenceNumber
  sampleTime := packet.values.sampleTimestampUs
  sequenceDisposition := packet.sequenceDisposition.value
  missingBefore := packet.missingBefore
  processingState := job.map (·.state.value)

/-- What the processed route shows of a result. -/
def processedView (processed : ProcessedTelemetry) : ProcessedView where
  messageId := processed.packetId
  temperatureC := processed.values.temperatureC
  voltageV := processed.values.voltageV
  operatingMode := processed.values.operatingMode
  faultNames := processed.values.faultNames
  classification := processed.values.classification.value
  freshness := if processed.values.isStale then "STALE" else "CURRENT"
  processorVersion := processed.values.processorVersion
  processedAt := processed.processedAt

/-- The answer for an identifier under which there is no packet. -/
def messageNotFound : ReadAnswer := .refused ⟨404, "telemetry message not found", []⟩

/-- The part of `get_raw_payload` that runs in a database session. -/
def showRaw (messageId : String) : Service ReadAnswer := do
  let found ← callRepository (.getPacket messageId)
  match found with
  | none => return messageNotFound
  | some packet =>
    let receipt ← callRepository (.getDelivery packet.sourceReceiptId)
    let job ← callRepository (.getJobForPacket messageId)
    match receipt with
    | none => raise (.runtime "logical packet has no source receipt")
    | some receipt => return .raw (rawView packet receipt job)

/-- The answer for a packet that has no result. -/
def unprocessedAnswer (messageId : String) : Option TelemetryProcessingJob → ReadAnswer
  | none => .unprocessed 202 messageId "UNKNOWN"
  | some job => .unprocessed (if job.state = .failed then 422 else 202) messageId job.state.value

/-- The part of `get_processed_payload` that runs in a database session. -/
def showProcessed (messageId : String) : Service ReadAnswer := do
  let found ← callRepository (.getPacket messageId)
  match found with
  | none => return messageNotFound
  | some _ =>
    let processed ← callRepository (.getProcessed messageId)
    let job ← callRepository (.getJobForPacket messageId)
    match processed with
    | none => return unprocessedAnswer messageId job
    | some result => return .processed (processedView result)

/-- The routes that read one message. -/
inductive ReadRoute where
  | raw
  | processed
  deriving DecidableEq, Repr

/-- A request to one of these routes. -/
structure ReadRequest where
  route : ReadRoute
  messageId : String
  authorization : Option String

/-- What a route does in its database session. -/
def ReadRoute.show : ReadRoute → String → Service ReadAnswer
  | raw => showRaw
  | processed => showProcessed

/-- `get_raw_payload` and `get_processed_payload`. -/
def readPayload (settings : GroundSettings) (request : ReadRequest) : Service ReadAnswer :=
  match bearerIdentity request.authorization settings with
  | .error (.http exception) => return .refused exception
  | .error (.failure failure) => raise failure
  | .ok _ =>
    if !fullmatch messageIdPattern request.messageId.toList then return messageNotFound
    else (request.route.show request.messageId).tryCatch fun failure =>
      if failure.isSqlAlchemy then return .refused ⟨503, "PostgreSQL unavailable", []⟩
      else raise failure

/-- The programs of the ground system and of those who read from it. -/
inductive Visitor where
  | process (process : Process)
  | reader (settings : GroundSettings) (request : ReadRequest)

/-- What a program returns; an answer comes with the request that it answers. -/
inductive Visit where
  | process (response : Option Response)
  | reader (settings : GroundSettings) (request : ReadRequest) (answer : ReadAnswer)

/-- The program of a visitor; the server answers for a handler that raises. -/
def Visitor.program : Visitor → Service Visit
  | process own => do return .process (← own.program)
  | reader settings asked => do
    let answer ← (readPayload settings asked).tryCatch fun failure =>
      return .serverError failure
    return .reader settings asked answer

/-- Any visitor may come at any time. -/
def startsVisitor (_ : Nat) (_ : Ground) (program : Service Visit) : Prop :=
  ∃ visitor : Visitor, visitor.program = program

/-- The stores with the running processes and readers. -/
abbrev VisitedConfig := Config Nat Failure Request Request.Reply Ground Visit

/-- Empty stores and no visitor. -/
def VisitedConfig.initial : VisitedConfig where
  state := {}
  threads _ := none

/-- What a reader in a place was answered. -/
def VisitedConfig.Answered (config : VisitedConfig) (thread : Nat) (settings : GroundSettings)
    (request : ReadRequest) (answer : ReadAnswer) : Prop :=
  config.threads thread = some (.done (.reader settings request answer))

end Cislunar

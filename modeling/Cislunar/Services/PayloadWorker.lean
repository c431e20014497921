import Cislunar.Services.GroundApi

/-!
The payload worker: what it computes for a work item and one iteration of its loop.

Waiting, metrics and log lines are left out. The loop itself never ends; a run of it is a number of
iterations, each of which may be the last.
-/

namespace Cislunar

open Foundation Foundation.Prog

/-- `_stored_values`. -/
def storedValues (frame : TelemetryFrame OperatingMode) : DecodedTelemetryValues where
  protocolVersion := frame.protocolVersion
  payloadId := frame.payloadId
  bootId := frame.bootId
  sequenceNumber := frame.sequenceNumber
  sampleTimestampUs := frame.timestampUs
  temperatureCentiC := frame.temperatureCentiC
  voltageMv := frame.voltageMv
  operatingMode := frame.operatingMode.toInt
  faultFlags := frame.faultFlags

/-- `_fault_names`. -/
def faultNames (flags : FaultFlag) : List String :=
  (FaultFlag.members.filter fun member => Int.land flags member.1 ≠ 0).map (·.2)

/-- The engineering values of a frame and its assessment. -/
def engineeringResult (frame : TelemetryFrame OperatingMode) (assessment : HealthAssessment) :
    ProcessingResultValues where
  temperatureC := frame.temperatureC
  voltageV := frame.voltageV
  operatingMode := frame.operatingMode.name
  faultNames := faultNames frame.faultFlags
  classification := assessment.classification
  isStale := assessment.isStale

/-- What a worker computes from the authoritative bytes of a work item. -/
def computeResult (rawBody : Bytes) (receivedAt : Time) (values : DecodedTelemetryValues) :
    Except Failure ProcessingResultValues :=
  match decodeTelemetry zlibCrc32 rawBody (.utc receivedAt) with
  | .error error => .error (.codec error)
  | .ok frame =>
    if storedValues frame ≠ values then
      .error (.value "stored decoded fields do not match the preserved raw bytes")
    else
      match assessHealth frame (.utc receivedAt) with
      | .error error => .error (.codec error)
      | .ok assessment => .ok (engineeringResult frame assessment)

/-- `_return_or_finish_unclaimed`. -/
def returnOrFinishUnclaimed (message : QueueMessage) : Service Unit := do
  let found ← callRepository (.getJob message.jobId)
  match found with
  | none => callQueue (.ack message)
  | some job =>
    if job.state = .complete then callQueue (.ack message)
    else if job.state = .failed then callQueue (.deadLetter message)
    -- Another worker's lease or a retry that is not due keeps the reference recoverable.
    else callQueue (.retry message)

/-- Take a reference from the queue; a malformed one and an unreachable queue are passed over. -/
def claimReference : Service (Option QueueMessage) :=
  (callQueue .claim).tryCatch fun
    | .queue (.message _) => return none
    | .queue .redis => return none
    | failure => raise failure

/-- Claim the job of a reference, or resolve the reference where the job cannot be claimed. -/
def claimWork (workerId : String) (message : QueueMessage) :
    Service (Option TelemetryWorkItem) := do
  let work ← callRepository (.claimProcessingJob message.jobId workerId 60)
  match work with
  | none =>
    returnOrFinishUnclaimed message
    return none
  | some item => return some item

/-- After an error without a work item the reference goes back to the queue. -/
def returnReference (message : QueueMessage) : Service Unit :=
  (callQueue (.retry message)).tryCatch fun
    | .queue (.state _) => return ()
    | failure => raise failure

/-- Compute the result of a work item, store it and acknowledge the reference. -/
def processWork (workerId : String) (message : QueueMessage) (work : TelemetryWorkItem) :
    Service Unit :=
  match computeResult work.rawBody work.receivedAt work.values with
  | .error failure => raise failure
  | .ok result => do
    let _ ← callRepository (.completeProcessingJob work.jobId result workerId none)
    -- The database already says COMPLETE, so a failed acknowledgement is not a processing failure.
    (callQueue (.ack message)).tryCatch fun _ => return ()

/-- `fail_processing_attempt`, absent where the database is unreachable. -/
def recordFailure (workerId : String) (work : TelemetryWorkItem) (failure : Failure) :
    Service (Option ProcessingFailureResult) :=
  let call := RepoCall.failProcessingAttempt work.jobId workerId failure.describe
    (!failure.isValueError) 1 none
  (do return some (← callRepository call)).tryCatch fun storageFailure =>
    if storageFailure.isSqlAlchemy then return none else raise storageFailure

/-- Record a failed attempt and move its reference accordingly. -/
def failWork (workerId : String) (message : QueueMessage) (work : TelemetryWorkItem)
    (failure : Failure) : Service Unit := do
  let recorded ← recordFailure workerId work failure
  match recorded with
  -- The processing entry stays for the recovery at start-up.
  | none => return ()
  | some result =>
    if result.state = .failed then callQueue (.deadLetter message)
    else callQueue (.retry message)

/-- One iteration of the loop of `run_worker`. -/
def workerIteration (workerId : String) : Service Unit := do
  let claimed ← claimReference
  match claimed with
  | none => return ()
  | some message =>
    let work ← (claimWork workerId message).tryCatch fun _ => do
      returnReference message
      return none
    match work with
    | none => return ()
    | some item =>
      (processWork workerId message item).tryCatch (failWork workerId message item)

/-- Iterations of the loop, up to a number that a run does not exceed. -/
def workerLoop (workerId : String) : Nat → Service Unit
  | 0 => return ()
  | iterations + 1 => do
    workerIteration workerId
    workerLoop workerId iterations

/-- `run_worker`. -/
def runWorker (workerId : String) (iterations : Nat) : Service Unit := do
  let _ ← callQueue .recoverProcessing
  workerLoop workerId iterations

/-- The processes of the ground system. -/
inductive Process where
  /-- A request handler of the gateway. -/
  | gateway (settings : GroundSettings) (request : VendorRequest)
  /-- The recovery that the gateway runs at start-up. -/
  | startup
  /-- A payload worker with its identity. -/
  | worker (workerId : String) (iterations : Nat)

/-- The program of a process; only a handler answers. -/
def Process.program : Process → Service (Option Response)
  | gateway settings vendor => do return some (← receivePayloadData settings vendor)
  | startup => do
    let _ ← recoverPendingJobs
    return none
  | worker workerId iterations => do
    runWorker workerId iterations
    return none

/-- Any process may start at any time. -/
def startsProcess (_ : Nat) (_ : Ground) (program : Service (Option Response)) : Prop :=
  ∃ process : Process, process.program = program

/-- The stores and the running processes of the ground system. -/
abbrev GroundConfig := Config Nat Failure Request Request.Reply Ground (Option Response)

/-- What the process in a place has answered. -/
def answerOf {σ : Type} (config : Config Nat Failure Request Request.Reply σ (Option Response))
    (thread : Nat) : Option Response :=
  match config.threads thread with
  | some (.done answer) => answer
  | _ => none

/-- Empty stores and no process. -/
def GroundConfig.initial : GroundConfig where
  state := {}
  threads _ := none

end Cislunar

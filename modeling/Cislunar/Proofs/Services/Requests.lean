import Cislunar.Services.Schedule

/-! Which requests the processes of the ground system make. -/

namespace Cislunar

open Foundation

/--
The requests of the gateway; it names the message of a job after the job.

It holds at most a receipt that it rejects or accepts, or a job that it marks.
-/
def Request.fromGateway : Request → Bool
  | .clock => true
  | .queue (.enqueue _) => true
  | .repository (.rejectDelivery _ _ _ _) held
  | .repository (.acceptPacketAndCreateJob _ _ _ _) held => held.job = none
  | .repository (.markJobQueued jobId queueMessageId _) held =>
    queueMessageId = jobId.str ∧ held.receipt = none
  | .repository (.recordDelivery _ _) held | .repository (.recordAuditEvent _) held
  | .repository (.recoverableQueueJobs _) held | .repository (.getDelivery _) held
  | .repository (.getJob _) held | .repository (.getJobForPacket _) held => held = {}
  | _ => false

/-- The requests of a worker, which holds nothing; its leases last a minute. -/
def Request.fromWorker : Request → Bool
  | .queue .claim | .queue (.ack _) | .queue (.retry _) | .queue (.deadLetter _)
  | .queue .recoverProcessing => true
  | .repository (.claimProcessingJob _ _ leaseSeconds) held => leaseSeconds = 60 ∧ held = {}
  | .repository (.completeProcessingJob _ _ _ _) held
  | .repository (.failProcessingAttempt _ _ _ _ _ _) held | .repository (.getJob _) held => held = {}
  | _ => false

/-- A request that records a delivery or settles one with a packet. -/
def Request.delivers : Request → Bool
  | .repository (.recordDelivery _ _) _ => true
  | .repository (.acceptPacketAndCreateJob _ _ _ _) _ => true
  | _ => false

/-- A service that makes requests of the gateway only. -/
abbrev FromGateway {α : Type} (service : Service α) : Prop :=
  service.Only fun request => request.fromGateway = true

/-- A service that makes requests of a worker only. -/
abbrev FromWorker {α : Type} (service : Service α) : Prop :=
  service.Only fun request => request.fromWorker = true

/-- A service of the gateway that delivers nothing. -/
abbrev HandsOver {α : Type} (service : Service α) : Prop :=
  service.Only fun request => request.fromGateway = true ∧ request.delivers = false

/-- What hands over belongs to the gateway. -/
theorem HandsOver.fromGateway {α : Type} {service : Service α} (handsOver : HandsOver service) :
    FromGateway service :=
  handsOver.mono fun _ => And.left

section Gateway

/-- Queueing a job enqueues its reference and marks the job. -/
theorem queueOne_handsOver (jobId : UUID) (packetId : String)
    (job : Option TelemetryProcessingJob) : HandsOver (queueOne jobId packetId job) := by
  -- A job without a message makes no request; the reference is announced before the mark.
  rw [queueOne]
  split
  · trivial
  · exact .bind (.call ⟨rfl, rfl⟩) fun _ => .call ⟨decide_eq_true ⟨rfl, rfl⟩, rfl⟩

/-- Recording an audit event requests that record alone. -/
theorem auditSafely_handsOver (event : TelemetryAuditEvent) : HandsOver (auditSafely event) := by
  -- An audit event hands nothing over.
  refine .tryCatch (.bind (.call ⟨rfl, rfl⟩) fun _ => trivial) fun failure => ?_
  split_ifs <;> trivial

/-- Recovery reads jobs and queues them. -/
theorem recoverJobs_handsOver (jobIds : List UUID) : HandsOver (recoverJobs jobIds) := by
  -- By induction on the identifiers; a job that is gone is passed over.
  induction jobIds with
  | nil => trivial
  | cons jobId rest ih =>
    refine .bind (.call ⟨rfl, rfl⟩) fun found => ?_
    cases found with
    | none => exact ih
    | some job => exact .bind (queueOne_handsOver _ _ _) fun _ => .bind ih fun _ => trivial

/-- Refusing a vendor records an audit event. -/
theorem refuseVendor_handsOver (vendor : VendorRequest) : HandsOver (refuseVendor vendor) :=
  .bind (auditSafely_handsOver _) fun _ => trivial

/-- Refusing a body records an audit event. -/
theorem refuseBody_handsOver (vendor : VendorRequest) (statusCode : Nat) :
    HandsOver (refuseBody vendor statusCode) :=
  .bind (auditSafely_handsOver _) fun _ => trivial

/-- Refusing a header rejects the delivery. -/
theorem rejectHeader_handsOver (receiptId : UUID) (reason : String)
    (existing : Option TelemetryDeliveryReceipt) :
    HandsOver (rejectHeader receiptId reason existing) :=
  .bind (.call ⟨rfl, rfl⟩) fun _ => trivial

/-- The replay of a request reads its receipt. -/
theorem replayedReceipt_handsOver (delivery : DeliveryRecordResult) :
    HandsOver (replayedReceipt delivery) := by
  -- Only a replay looks its receipt up, and a search hands nothing over.
  rw [replayedReceipt]
  split_ifs
  · refine .bind (.call ⟨rfl, rfl⟩) fun found => ?_
    cases found <;> trivial
  · trivial

/-- Queueing the job of a replayed request reads the job and queues it. -/
theorem requeueReceipt_handsOver (receipt : TelemetryDeliveryReceipt) (packetId : String) :
    HandsOver (requeueReceipt receipt packetId) := by
  -- The job is looked up first, and only one that exists is enqueued.
  refine .bind (.call ⟨rfl, rfl⟩) fun found => ?_
  cases found with
  | none => trivial
  | some job => exact .bind (queueOne_handsOver _ _ _) fun _ => trivial

/-- The answer to an acceptance queues its job. -/
theorem answerAcceptance_handsOver (accepted : PacketAcceptanceResult) :
    HandsOver (answerAcceptance accepted) := by
  -- The job is queued where the acceptance brought one, under either disposition.
  rw [answerAcceptance]
  dsimp only
  split_ifs
  · trivial
  · split
    · exact .bind (queueOne_handsOver _ _ _) fun _ => trivial
    · trivial
  · split
    · exact .bind (queueOne_handsOver _ _ _) fun _ => trivial
    · trivial

/-- Reporting a failure makes no request. -/
theorem answerUnavailable_handsOver (failure : Failure) : HandsOver (answerUnavailable failure) := by
  -- The answer is made without a request.
  rw [answerUnavailable]
  split_ifs <;> trivial

/-- The recovery at start-up delivers nothing. -/
theorem recoverPendingJobs_handsOver (limit : Nat) : HandsOver (recoverPendingJobs limit) :=
  .bind (.call ⟨rfl, rfl⟩) recoverJobs_handsOver

/-- Validating a delivery makes the requests of the gateway. -/
theorem validateDelivery_fromGateway (settings : GroundSettings) (receiptId : UUID)
    (rawBody : Bytes) (receivedAt : Time) (existing : Option TelemetryDeliveryReceipt) :
    FromGateway (validateDelivery settings receiptId rawBody receivedAt existing) := by
  -- A body that is no packet is rejected, one that is a packet is accepted and queued.
  rw [validateDelivery]
  split
  · exact .bind (.call rfl) fun _ => trivial
  · trivial
  · exact .bind (.call rfl) fun accepted => (answerAcceptance_handsOver accepted).fromGateway

/-- Checking a delivery makes the requests of the gateway. -/
theorem checkDelivery_fromGateway (settings : GroundSettings) (vendor : VendorRequest)
    (rawBody : Bytes) (receivedAt : Time) (receiptId : UUID)
    (existing : Option TelemetryDeliveryReceipt) :
    FromGateway (checkDelivery settings vendor rawBody receivedAt receiptId existing) := by
  -- Both headers can be refused before the stored receipt is looked at.
  unfold checkDelivery
  split_ifs
  · exact (rejectHeader_handsOver _ _ _).fromGateway
  · exact (rejectHeader_handsOver _ _ _).fromGateway
  · split
    · exact (requeueReceipt_handsOver _ _).fromGateway
    · exact validateDelivery_fromGateway _ _ _ _ _

/-- Delivering a payload makes the requests of the gateway. -/
theorem deliver_fromGateway (settings : GroundSettings) (vendor : VendorRequest) (rawBody : Bytes)
    (receivedAt : Time) : FromGateway (deliver settings vendor rawBody receivedAt) := by
  -- A conflict makes no further request, and neither does a replay that is answered at once.
  refine .bind (.call rfl) fun delivery => ?_
  split_ifs
  · trivial
  · refine .bind (replayedReceipt_handsOver delivery).fromGateway fun existing => ?_
    split
    · trivial
    · exact checkDelivery_fromGateway _ _ _ _ _ _

/-- A request handler makes the requests of the gateway. -/
theorem receivePayloadData_fromGateway (settings : GroundSettings) (vendor : VendorRequest) :
    FromGateway (receivePayloadData settings vendor) := by
  -- One case per answer of the comparison of tokens; only the second delivers.
  rw [receivePayloadData]
  split
  · exact (refuseVendor_handsOver vendor).fromGateway
  · split
    · trivial
    · rw [receiveAuthenticated]
      split
      · exact (refuseBody_handsOver vendor _).fromGateway
      · refine .bind (.call rfl) fun receivedAt => ?_
        exact .tryCatch (deliver_fromGateway _ _ _ _) fun failure =>
          (answerUnavailable_handsOver failure).fromGateway
    · exact (refuseVendor_handsOver vendor).fromGateway

/-- The recovery at start-up makes the requests of the gateway. -/
theorem recoverPendingJobs_fromGateway (limit : Nat) : FromGateway (recoverPendingJobs limit) :=
  (recoverPendingJobs_handsOver limit).fromGateway

end Gateway

section Worker

/-- Claiming a reference makes the requests of a worker. -/
theorem claimReference_fromWorker : FromWorker claimReference := by
  -- The one request is the claim, and the handler makes none.
  refine .tryCatch (.call rfl) fun failure => ?_
  split <;> trivial

/-- Giving an unclaimed reference back makes the requests of a worker. -/
theorem returnOrFinishUnclaimed_fromWorker (message : QueueMessage) :
    FromWorker (returnOrFinishUnclaimed message) := by
  -- The reference is finished or returned, by the state of its job.
  refine .bind (.call rfl) fun found => ?_
  split
  · exact .call rfl
  · split_ifs <;> exact .call rfl

/-- Claiming the work of a reference makes the requests of a worker. -/
theorem claimWork_fromWorker (workerId : String) (message : QueueMessage) :
    FromWorker (claimWork workerId message) := by
  -- A refused claim is followed by the return of the reference.
  refine .bind (.call rfl) fun work => ?_
  cases work with
  | none => exact .bind (returnOrFinishUnclaimed_fromWorker message) fun _ => trivial
  | some item => trivial

/-- Returning a reference makes the requests of a worker. -/
theorem returnReference_fromWorker (message : QueueMessage) :
    FromWorker (returnReference message) := by
  -- The one request is the return, and the handler makes none.
  refine .tryCatch (.call rfl) fun failure => ?_
  split <;> trivial

/-- Processing work makes the requests of a worker. -/
theorem processWork_fromWorker (workerId : String) (message : QueueMessage)
    (work : TelemetryWorkItem) : FromWorker (processWork workerId message work) := by
  -- A result that cannot be computed is raised; another one is stored and acknowledged.
  unfold processWork
  split
  · trivial
  · exact .bind (.call rfl) fun _ => .tryCatch (.call rfl) fun _ => trivial

/-- Failing work makes the requests of a worker. -/
theorem failWork_fromWorker (workerId : String) (message : QueueMessage) (work : TelemetryWorkItem)
    (failure : Failure) : FromWorker (failWork workerId message work failure) := by
  -- The failed attempt is recorded before the reference is returned or put aside.
  refine .bind (.tryCatch (.bind (.call rfl) fun _ => trivial) fun storageFailure => ?_)
    fun recorded => ?_
  · split_ifs <;> trivial
  · cases recorded with
    | none => trivial
    | some result =>
      dsimp only
      split_ifs <;> exact .call rfl

/-- A round of the worker makes the requests of a worker. -/
theorem workerIteration_fromWorker (workerId : String) : FromWorker (workerIteration workerId) := by
  -- A round ends where it finds no reference and where the reference brings no work.
  refine .bind claimReference_fromWorker fun claimed => ?_
  cases claimed with
  | none => trivial
  | some message =>
    refine .bind (.tryCatch (claimWork_fromWorker workerId message) fun _ =>
      .bind (returnReference_fromWorker message) fun _ => trivial) fun work => ?_
    cases work with
    | none => trivial
    | some item => exact .tryCatch (processWork_fromWorker _ _ _) (failWork_fromWorker _ _ _)

/-- A worker makes the requests of a worker. -/
theorem runWorker_fromWorker (workerId : String) (iterations : Nat) :
    FromWorker (runWorker workerId iterations) := by
  -- By induction on the number of rounds.
  have loops : FromWorker (workerLoop workerId iterations) := by
    induction iterations with
    | zero => trivial
    | succ iterations ih => exact .bind (workerIteration_fromWorker workerId) fun _ => ih
  exact .bind (.call rfl) fun _ => loops

end Worker

end Cislunar

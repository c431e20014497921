import Cislunar.Proofs.Telemetry.Ledger

/-!
What one call can do to one job row.

Everything about the life of a job, from the fields of its row to the leases of its workers, follows
from the short list of steps here.
-/

namespace Cislunar

open Foundation

/-- The work item in the answer to a claim. -/
def answeredItem : Except StorageError (Option TelemetryWorkItem) → Option TelemetryWorkItem
  | .ok item => item
  | .error _ => none

/-- An item that is there was returned. -/
theorem of_answeredItem {answer : Except StorageError (Option TelemetryWorkItem)}
    {item : TelemetryWorkItem} (same : answeredItem answer = some item) :
    answer = .ok (some item) := by
  -- An error answers no item.
  cases answer with
  | error error => cases same
  | ok found => exact congrArg _ same

/-- The work item that a call hands out, if it is a claim that succeeds. -/
def RepoCall.workItem? (env : Surroundings) (db : Database) : RepoCall → Option TelemetryWorkItem
  | claimProcessingJob jobId workerId leaseSeconds =>
    answeredItem ((claimProcessingJob jobId workerId leaseSeconds).exec env db).1
  | _ => none

/-- One step in the life of a job, with the work item that is handed out in it. -/
inductive JobStep (env : Surroundings) :
    RepoCall → Option TelemetryWorkItem → TelemetryProcessingJob → TelemetryProcessingJob → Prop where
  | kept (call : RepoCall) {handed : Option TelemetryWorkItem} {job : TelemetryProcessingJob}
      (other : ∀ item, handed = some item → item.jobId ≠ job.jobId) :
      JobStep env call handed job job
  | queued {job : TelemetryProcessingJob}
      (status : job.state = .pendingQueue ∨ job.state = .retryWait)
      (queueMessageId actorIdentity : String) :
      JobStep env (.markJobQueued job.jobId queueMessageId actorIdentity) none job
        (queuedJob job queueMessageId)
  /-- A result is found for a job that is complete already. -/
  | closed (call : RepoCall) {job : TelemetryProcessingJob} (status : job.state = .complete)
      (processed : ProcessedTelemetry) :
      JobStep env call none job (closedJob job processed)
  | claimed {job : TelemetryProcessingJob} (free : isClaimable job env.now = true)
      {workerId : String} {leaseSeconds : Int} (lease : 0 < leaseSeconds)
      (packet : LogicalTelemetryPacket) (receipt : TelemetryDeliveryReceipt) :
      JobStep env (.claimProcessingJob job.jobId workerId leaseSeconds)
        (some (workItem (claimedJob job workerId leaseSeconds env.now) packet receipt)) job
        (claimedJob job workerId leaseSeconds env.now)
  | completed {job : TelemetryProcessingJob} (status : job.state = .processing) {workerId : String}
      (owned : job.claimedBy = some workerId) (result : ProcessingResultValues)
      (processedAt : Option Time) :
      JobStep env (.completeProcessingJob job.jobId result workerId processedAt) none job
        (completedJob job (processedAt.getD env.now))
  | failed {job : TelemetryProcessingJob} (status : job.state = .processing) {workerId : String}
      (owned : job.claimedBy = some workerId) (reason : String) (temporary : Bool)
      (baseBackoffSeconds : Int) (now : Option Time) :
      JobStep env
        (.failProcessingAttempt job.jobId workerId reason temporary baseBackoffSeconds now) none job
        (jobAfterFailure job reason temporary baseBackoffSeconds (now.getD env.now))

/-- A failed attempt keeps the identifier of its job. -/
theorem jobAfterFailure_jobId (job : TelemetryProcessingJob) (reason : String) (temporary : Bool)
    (baseBackoffSeconds : Int) (failureTime : Time) :
    (jobAfterFailure job reason temporary baseBackoffSeconds failureTime).jobId = job.jobId := by
  -- Both outcomes keep the identifier.
  rw [jobAfterFailure]
  split_ifs <;> rfl

/-- A claimable job is in none of the states a worker cannot take. -/
theorem isClaimable_state {job : TelemetryProcessingJob} {now : Time}
    (free : isClaimable job now = true) :
    job.state ≠ .pendingQueue ∧ job.state ≠ .complete ∧ job.state ≠ .failed := by
  -- Each of the three states is checked.
  refine ⟨fun state => ?_, fun state => ?_, fun state => ?_⟩ <;> simp [isClaimable, state] at free

section
variable {db : Database} {job row : TelemetryProcessingJob} {env : Surroundings}

/-- A job in the rewritten table is the new row or another old one. -/
theorem mem_set_jobs {new : TelemetryProcessingJob} {jobId : UUID}
    (found : db.jobs.get? jobId = some job) (same : new.jobId = job.jobId)
    (member : row ∈ db.jobs.set new) : row = new ∨ row ∈ db.jobs ∧ row.jobId ≠ jobId := by
  -- The row that was replaced is the one found under the key.
  obtain ⟨_, key⟩ := Table.get?_eq_some.mp found
  rcases Table.mem_set.mp member with ⟨rfl, -⟩ | ⟨old, different⟩
  · exact Or.inl rfl
  · exact Or.inr ⟨old, fun equal => different (equal.trans (same.trans key).symm)⟩

/-- Steps of the rows of a table that is left alone. -/
theorem jobStep_of_same (call : RepoCall) {jobs : Table TelemetryProcessingJob.jobId}
    (same : jobs = db.jobs) (member : row ∈ jobs) :
    ∃ job ∈ db.jobs, JobStep env call none job row :=
  ⟨row, same ▸ member, .kept call fun _ handed => nomatch handed⟩

/-- What a marked job goes through. -/
theorem QueueOutcome.jobStep {jobId : UUID} {queueMessageId actorIdentity : String}
    {outcome : Except StorageError Bool × Database}
    (happened : QueueOutcome db jobId queueMessageId actorIdentity outcome)
    (member : row ∈ outcome.2.jobs) :
    ∃ job ∈ db.jobs,
      JobStep env (.markJobQueued jobId queueMessageId actorIdentity) none job row := by
  -- The row of the job is the queued one; every other row is kept.
  cases happened with
  | missing | repeated | renamed | refused => exact jobStep_of_same _ rfl member
  | @queued job found status =>
    obtain ⟨stored, rfl⟩ := Table.get?_eq_some.mp found
    rcases mem_set_jobs found (by rfl) member with rfl | ⟨old, -⟩
    · exact ⟨job, stored, .queued status _ _⟩
    · exact jobStep_of_same _ rfl old

/-- What a claimed job goes through. -/
theorem ClaimOutcome.jobStep {jobId : UUID} {workerId : String} {leaseSeconds : Int}
    {outcome : Except StorageError (Option TelemetryWorkItem) × Database} (ledger : Ledger db)
    (happened : ClaimOutcome db jobId workerId leaseSeconds env.now outcome)
    (lease : 0 < leaseSeconds) (member : row ∈ outcome.2.jobs) :
    ∃ job ∈ db.jobs, JobStep env (.claimProcessingJob jobId workerId leaseSeconds)
      (answeredItem outcome.1) job row := by
  -- In a consistent database a job with a result is complete, so none is closed here.
  cases happened with
  | missing | finished | unavailable | dangling => exact jobStep_of_same _ rfl member
  | @closed job processed found done status =>
    have complete := ledger.complete_of_result (Table.get?_eq_some.mp found).1 done
    exact absurd complete status
  | @taken job packet receipt found undone free stored source =>
    obtain ⟨among, rfl⟩ := Table.get?_eq_some.mp found
    rcases mem_set_jobs found (by rfl) member with rfl | ⟨old, different⟩
    · exact ⟨job, among, .claimed free lease packet receipt⟩
    · refine ⟨row, old, .kept _ fun item same => ?_⟩
      cases same
      exact different.symm

/-- What a completed job goes through. -/
theorem CompleteOutcome.jobStep {jobId : UUID} {result : ProcessingResultValues}
    {workerId : String} {processedAt : Option Time}
    {outcome : Except StorageError ProcessedTelemetry × Database} (ledger : Ledger db)
    (happened : CompleteOutcome db jobId result workerId (processedAt.getD env.now) outcome)
    (member : row ∈ outcome.2.jobs) :
    ∃ job ∈ db.jobs,
      JobStep env (.completeProcessingJob jobId result workerId processedAt) none job row := by
  -- The row of the job is closed or completed; every other row is kept.
  cases happened with
  | missing | conflicting | refused | integrity => exact jobStep_of_same _ rfl member
  | @closed job existing found done same =>
    obtain ⟨stored, rfl⟩ := Table.get?_eq_some.mp found
    rcases mem_set_jobs found (by rfl) member with rfl | ⟨old, -⟩
    · exact ⟨job, stored, .closed _ (ledger.complete_of_result stored done) existing⟩
    · exact jobStep_of_same _ rfl old
  | @completed job found undone status owned admitted =>
    obtain ⟨stored, rfl⟩ := Table.get?_eq_some.mp found
    rcases mem_set_jobs found (by rfl) member with rfl | ⟨old, -⟩
    · exact ⟨job, stored, .completed status owned result processedAt⟩
    · exact jobStep_of_same _ rfl old

/-- What a job goes through when an attempt fails. -/
theorem FailOutcome.jobStep {jobId : UUID} {workerId reason : String} {temporary : Bool}
    {baseBackoffSeconds : Int} {now : Option Time}
    {outcome : Except StorageError ProcessingFailureResult × Database}
    (happened : FailOutcome db jobId workerId reason temporary baseBackoffSeconds
      (now.getD env.now) outcome) (member : row ∈ outcome.2.jobs) :
    ∃ job ∈ db.jobs, JobStep env
      (.failProcessingAttempt jobId workerId reason temporary baseBackoffSeconds now) none job
        row := by
  -- The row of the job is the failed attempt; every other row is kept.
  cases happened with
  | missing | repeated | refused => exact jobStep_of_same _ rfl member
  | @failed job found status owned =>
    obtain ⟨stored, rfl⟩ := Table.get?_eq_some.mp found
    rcases mem_set_jobs found (jobAfterFailure_jobId _ _ _ _ _) member with rfl | ⟨old, -⟩
    · exact ⟨job, stored, .failed status owned _ _ _ _⟩
    · exact jobStep_of_same _ rfl old

/-- A job that has just been created, under an identifier that was not in use. -/
def JobCreated (db : Database) (row : TelemetryProcessingJob) : Prop :=
  db.jobs.get? row.jobId = none ∧
    ∃ packetId maxAttempts now, 0 < maxAttempts ∧ row = newJob row.jobId packetId maxAttempts now

/-- Recording a delivery leaves the jobs alone. -/
theorem RecordOutcome.jobs {delivery : Delivery} {receiptId : UUID}
    {outcome : Except StorageError DeliveryRecordResult × Database}
    (happened : RecordOutcome db delivery receiptId outcome) : outcome.2.jobs = db.jobs := by
  -- No outcome of the call writes a job.
  cases happened <;> rfl

/-- Rejecting a delivery leaves the jobs alone. -/
theorem RejectOutcome.jobs {receiptId : UUID} {reason : String}
    {parsedIdentifiers : Option JsonObject} {actorIdentity : String}
    {outcome : Except StorageError DeliveryRecordResult × Database}
    (happened : RejectOutcome db receiptId reason parsedIdentifiers actorIdentity outcome) :
    outcome.2.jobs = db.jobs := by
  -- No outcome of the call writes a job.
  cases happened <;> rfl

/-- An acceptance creates a job at most. -/
theorem AcceptOutcome.job_origin {receiptId : UUID} {values : DecodedTelemetryValues} {jobId : UUID}
    {options : AcceptanceOptions} {outcome : Except StorageError PacketAcceptanceResult × Database}
    (happened : AcceptOutcome db receiptId values jobId options outcome)
    (attempts : 0 < options.maxAttempts) (member : row ∈ outcome.2.jobs) :
    row ∈ db.jobs ∨ JobCreated db row := by
  -- Only an accepted packet brings a job.
  cases happened with
  | missing | replayed | refused => exact Or.inl member
  | settled found pending settles =>
    cases settles with
    | duplicated | conflicted | stateConflicted | integrity => exact Or.inl member
    | accepted _ _ _ _ _ jobAdmitted =>
      rcases (Table.mem_insert jobAdmitted.1).mp member with old | rfl
      · exact Or.inl old
      · exact Or.inr ⟨jobAdmitted.1, _, _, _, attempts, rfl⟩

/-- Every job after a call has taken a step from a job before it, or has just been created. -/
theorem RepoCall.jobStep_of_mem (ledger : Ledger db) (env : Surroundings) (call : RepoCall)
    (member : row ∈ (call.exec env db).2.jobs) :
    (∃ job ∈ db.jobs, JobStep env call (call.workItem? env db) job row) ∨ JobCreated db row := by
  -- One case per call: guards that fail write nothing, and each outcome has its own step.
  cases call with
  | recordDelivery delivery receiptId =>
    rcases recordDelivery_serially delivery receiptId env.uuid4 db with ⟨_, failed⟩ | ⟨_, happened⟩
    · exact Or.inl (jobStep_of_same _ (congrArg (·.2.jobs) failed) member)
    · exact Or.inl (jobStep_of_same _ happened.jobs member)
  | rejectDelivery receiptId reason parsedIdentifiers actorIdentity =>
    exact Or.inl (jobStep_of_same _
      (rejectDelivery_exec env db receiptId reason parsedIdentifiers actorIdentity).jobs member)
  | acceptPacketAndCreateJob receiptId values maxAttempts actorIdentity =>
    rcases acceptPacketAndCreateJob_serially receiptId values
      { maxAttempts := maxAttempts, actorIdentity := actorIdentity, now := env.now } env.uuid4 db
      with ⟨_, failed⟩ | ⟨-, attempts, _, happened⟩
    · exact Or.inl (jobStep_of_same _ (congrArg (·.2.jobs) failed) member)
    · exact (happened.job_origin attempts member).imp_left (jobStep_of_same _ rfl)
  | markJobQueued jobId queueMessageId actorIdentity =>
    exact Or.inl
      ((markJobQueued_exec env db jobId queueMessageId actorIdentity).jobStep member)
  | claimProcessingJob jobId workerId leaseSeconds =>
    rcases claimProcessingJob_exec env db jobId workerId leaseSeconds with
      ⟨_, failed⟩ | ⟨⟨-, lease⟩, happened⟩
    · have unhanded : workItem? env db (.claimProcessingJob jobId workerId leaseSeconds) = none :=
        congrArg answeredItem (congrArg Prod.fst failed)
      rw [unhanded]
      exact Or.inl (jobStep_of_same _ (congrArg (·.2.jobs) failed) member)
    · exact Or.inl (happened.jobStep ledger lease member)
  | completeProcessingJob jobId result workerId processedAt =>
    exact Or.inl
      ((completeProcessingJob_exec env db jobId result workerId processedAt).jobStep ledger member)
  | failProcessingAttempt jobId workerId reason temporary baseBackoffSeconds now =>
    rcases failProcessingAttempt_exec env db jobId workerId reason temporary baseBackoffSeconds now
      with ⟨_, failed⟩ | happened
    · exact Or.inl (jobStep_of_same _ (congrArg (·.2.jobs) failed) member)
    · exact Or.inl (happened.jobStep member)
  | recordAuditEvent => exact Or.inl (jobStep_of_same _ rfl member)
  | pendingQueueJobs | recoverableQueueJobs | getDelivery | getPacket | getProcessed | getJob
  | getJobForPacket | listAuditEvents | processingQueueDepth =>
    rw [RepoCall.read_exec] at member
    · exact Or.inl (jobStep_of_same _ rfl member)
    · rfl

/-- A step keeps the identity of its job. -/
theorem JobStep.jobId {call : RepoCall} {handed : Option TelemetryWorkItem}
    (step : JobStep env call handed job row) : row.jobId = job.jobId := by
  -- By the kind of step; each keeps the identifier.
  cases step with
  | failed => exact jobAfterFailure_jobId _ _ _ _ _
  | kept | queued | closed | claimed | completed => rfl

/-- Every job takes a step in every call. -/
theorem RepoCall.jobStep (ledger : Ledger db) (env : Surroundings) (call : RepoCall)
    (member : job ∈ db.jobs) :
    ∃ row ∈ (call.exec env db).2.jobs, JobStep env call (call.workItem? env db) job row := by
  obtain ⟨row, among, develops⟩ := (call.exec_effect env db).extends.jobs job member
  refine ⟨row, among, ?_⟩
  -- The row was there before, under the same identifier, so it comes from this job.
  rcases call.jobStep_of_mem ledger env among with ⟨old, stored, step⟩ | ⟨unused, -⟩
  · rwa [Table.eq_of_key member stored (develops.jobId.symm.trans step.jobId)]
  · exact absurd develops.jobId.symm (Table.get?_eq_none.mp unused job member)

/-- No step leads out of `FAILED`. -/
theorem JobStep.eq_of_failed {call : RepoCall} {handed : Option TelemetryWorkItem}
    (step : JobStep env call handed job row) (status : job.state = .failed) : row = job := by
  -- Every other step starts in another state.
  cases step with
  | kept => rfl
  | queued before => rcases before with state | state <;> simp [status] at state
  | closed call state => simp [status] at state
  | claimed free => exact absurd status (isClaimable_state free).2.2
  | completed state => simp [status] at state
  | failed state => simp [status] at state

/-- No call rewrites a failed job. -/
theorem RepoCall.failed_kept (ledger : Ledger db) (env : Surroundings) (call : RepoCall)
    (member : job ∈ db.jobs) (status : job.state = .failed) :
    job ∈ (call.exec env db).2.jobs := by
  -- No step leads away from FAILED.
  obtain ⟨row, among, step⟩ := call.jobStep ledger env member
  rwa [← step.eq_of_failed status]

/-- A call that marks a job as queued. -/
def RepoCall.isMark : RepoCall → Bool
  | markJobQueued _ _ _ => true
  | _ => false

/-- Only `mark_job_queued` takes a job out of `PENDING_QUEUE`. -/
theorem RepoCall.unqueued_kept (env : Surroundings) {call : RepoCall} (other : call.isMark = false)
    (ledger : Ledger db) (member : job ∈ db.jobs) (status : job.state = .pendingQueue) :
    job ∈ (call.exec env db).2.jobs := by
  -- Every other step starts in another state.
  obtain ⟨row, among, step⟩ := call.jobStep ledger env member
  generalize call.workItem? env db = handed at step
  cases step with
  | kept => exact among
  | queued => cases other
  | closed call state => simp [status] at state
  | claimed free => exact absurd status (isClaimable_state free).1
  | completed state => simp [status] at state
  | failed state => simp [status] at state

/-- Where a job comes from that is waiting for work or being worked on. -/
theorem RepoCall.job_origin (ledger : Ledger db) (env : Surroundings) (call : RepoCall)
    (member : row ∈ (call.exec env db).2.jobs) :
    row ∈ db.jobs ∨ row.state = .pendingQueue ∨ row.state = .complete ∨
      ∃ old ∈ db.jobs, old.jobId = row.jobId ∧ old.state ≠ .complete := by
  -- One case per step.
  rcases call.jobStep_of_mem ledger env member with ⟨old, stored, step⟩ | ⟨-, _, _, _, -, new⟩
  · have key := step.jobId
    generalize call.workItem? env db = handed at step
    cases step with
    | kept => exact Or.inl stored
    | queued before =>
      refine Or.inr (Or.inr (Or.inr ⟨old, stored, key.symm, ?_⟩))
      rcases before with state | state <;> simp [state]
    | closed | completed => exact Or.inr (Or.inr (Or.inl rfl))
    | claimed free =>
      exact Or.inr (Or.inr (Or.inr ⟨old, stored, key.symm, (isClaimable_state free).2.1⟩))
    | failed state =>
      exact Or.inr (Or.inr (Or.inr ⟨old, stored, key.symm, by simp [state]⟩))
  · rw [new]
    exact Or.inr (Or.inl rfl)

end

end Cislunar

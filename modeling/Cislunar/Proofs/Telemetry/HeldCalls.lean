import Cislunar.Proofs.Telemetry.HeldEffect
import Cislunar.Proofs.Telemetry.Jobs

/-!
The calls of a session that holds objects: each has one of the listed effects, and leaves the ledger
and the accounts as good as it found them.
-/

namespace Cislunar

open Foundation

section Outcomes
variable {db : Database} {row : TelemetryDeliveryReceipt} {held : Held}

/-- A receipt that is accepted and written back keeps the columns that were not changed. -/
theorem addPacket_keepReceipt (member : row ∈ db.receipts) (object : TelemetryDeliveryReceipt)
    (same : object.receiptId = row.receiptId) (values : DecodedTelemetryValues)
    (sequenceState : Option TelemetrySequenceState) (disposition : PacketDisposition)
    (missingBefore : Int) (jobId : UUID) (options : AcceptanceOptions) :
    (db.addPacket object values sequenceState disposition missingBefore jobId
        options).keepReceipt row object =
      { db.addPacket object values sequenceState disposition missingBefore jobId options with
        receipts := db.receipts.set (row.flush object (acceptedReceipt object values)) } := by
  -- The row is found under the same key, and the last write wins.
  have key : (acceptedReceipt object values).receiptId = row.receiptId := same
  have found : (db.receipts.set (acceptedReceipt object values)).get? row.receiptId =
      some (acceptedReceipt object values) := by
    rw [Table.get?_set, if_pos key, Table.get?_key member]
    rfl
  rw [Database.keepReceipt, Database.addPacket]
  dsimp only
  rw [found]
  simp only [Table.set_set, TelemetryDeliveryReceipt.flush, key]

/-- A verdict on a held object is written over whatever verdict its row has. -/
theorem HeldRejectOutcome.effect {reason : String} {parsedIdentifiers : Option JsonObject}
    {actorIdentity : String} {outcome : Except StorageError DeliveryRecordResult × Database}
    (happened : HeldRejectOutcome db row (held.seeReceipt row) reason parsedIdentifiers
      actorIdentity outcome) (loaded : held.Loaded db) (ledger : LooseLedger db)
    (member : row ∈ db.receipts) : HeldEffect db outcome.2 := by
  cases happened with
  | repeated | refused => exact .unchanged
  | rejected status =>
    -- An object that is pending is the evidence of the row it was loaded from.
    have backed := loaded.seeReceipt_backed ledger member
    rw [loaded.seeReceipt_pending ledger member status] at backed ⊢
    rw [settle_keepReceipt member _ (by rfl)]
    exact .rejected member backed _ _ _

/-- An acceptance of a held object is written over whatever verdict its row has. -/
theorem HeldAcceptOutcome.effect {values : DecodedTelemetryValues} {jobId : UUID}
    {options : AcceptanceOptions} {outcome : Except StorageError PacketAcceptanceResult × Database}
    (happened : HeldAcceptOutcome db row (held.seeReceipt row) values jobId options outcome)
    (range : 0 ≤ values.sequenceNumber ∧ values.sequenceNumber ≤ maxUint32)
    (loaded : held.Loaded db) (ledger : LooseLedger db) (member : row ∈ db.receipts) :
    HeldEffect db outcome.2 := by
  -- An object that is seen pending has the evidence of its row, so it settles as a row does and is
  -- then written back.
  cases happened with
  | replayed | refused => exact .unchanged
  | settled status settles =>
    have backed := loaded.seeReceipt_backed ledger member
    rw [loaded.seeReceipt_pending ledger member status] at settles backed ⊢
    cases settles with
    | duplicated stored key source digest same =>
      dsimp only
      rw [settle_keepReceipt member _ (by rfl)]
      exact .duplicated member backed stored key source digest same _
    | conflicted stored key different =>
      dsimp only
      rw [settle_keepReceipt member _ (by rfl)]
      exact .conflicted member backed stored key different _
    | stateConflicted unused tracked onMark =>
      dsimp only
      rw [settle_keepReceipt member _ (by rfl)]
      exact .stateConflicted member backed range unused tracked onMark _
    | accepted unused tracked position packetAdmitted stateAdmitted jobAdmitted =>
      dsimp only
      rw [addPacket_keepReceipt member _ (by rfl)]
      exact .accepted member backed tracked position packetAdmitted stateAdmitted jobAdmitted
    | integrity =>
      rw [keepReceipt_unchanged member]
      exact .unchanged

/-- A mark on a held object is written over whatever state its row has. -/
theorem HeldQueueOutcome.effect {row : TelemetryProcessingJob}
    {queueMessageId actorIdentity : String} {outcome : Except StorageError Bool × Database}
    (happened : HeldQueueOutcome db row (held.seeJob row) queueMessageId actorIdentity outcome)
    (loaded : held.Loaded db) (member : row ∈ db.jobs) : HeldEffect db outcome.2 := by
  -- The object was in front of the queue, whatever its row is now.
  cases happened with
  | repeated | renamed | refused => exact .unchanged
  | queued status =>
    rw [queue_keepJob member _ (held.seeJob_jobId row)]
    exact .queued member (loaded.seeJob_retains member) status _ _

end Outcomes

section Calls
variable {db : Database} {held : Held}

/-- `reject_delivery` of a receipt that is there decides on what the session sees of it. -/
theorem rejectDelivery_held (env : Surroundings) (held : Held) (db : Database) (receiptId : UUID)
    (reason : String) (parsedIdentifiers : Option JsonObject) (actorIdentity : String) :
    (db.receipts.get? receiptId = none ∧
      (RepoCall.rejectDelivery receiptId reason parsedIdentifiers actorIdentity).execHolding env held
        db = (.error (.deliveryNotFound receiptId), db)) ∨
    ∃ row, db.receipts.get? receiptId = some row ∧
      HeldRejectOutcome db row (held.seeReceipt row) reason parsedIdentifiers actorIdentity
        ((RepoCall.rejectDelivery receiptId reason parsedIdentifiers actorIdentity).execHolding env
          held db) := by
  -- The receipt is looked up before the object is looked at.
  cases found : db.receipts.get? receiptId with
  | none =>
    have reads : (Stmt.selectReceipt receiptId true).execHolding (held, db) =
        (.ok none, held, db) := by
      rw [Stmt.execHolding, found]
      rfl
    refine Or.inl ⟨rfl, ?_⟩
    rw [RepoCall.execHolding, RepoCall.program, Cislunar.rejectDelivery, remembering_transaction,
      rejectDeliveryTransaction, atomicallyFrom_select reads]
    rfl
  | some row => exact Or.inr ⟨row, rfl, rejectDelivery_execHolding found _ _ _⟩

/-- `mark_job_queued` of a job that is there decides on what the session sees of it. -/
theorem markJobQueued_held (env : Surroundings) (db : Database) (free : held.receipt = none)
    (jobId : UUID) (queueMessageId actorIdentity : String) :
    (db.jobs.get? jobId = none ∧
      (RepoCall.markJobQueued jobId queueMessageId actorIdentity).execHolding env held db =
        (.error (.processingJobNotFound jobId), db)) ∨
    ∃ row, db.jobs.get? jobId = some row ∧
      HeldQueueOutcome db row (held.seeJob row) queueMessageId actorIdentity
        ((RepoCall.markJobQueued jobId queueMessageId actorIdentity).execHolding env held db) := by
  -- The job is looked up before the object is looked at.
  obtain ⟨receipt, job⟩ := held
  obtain rfl : receipt = none := free
  cases found : db.jobs.get? jobId with
  | none =>
    have reads : (Stmt.selectJob jobId true).execHolding (({ job := job } : Held), db) =
        (.ok none, { job := job }, db) := by
      rw [Stmt.execHolding, found]
      rfl
    refine Or.inl ⟨rfl, ?_⟩
    rw [RepoCall.execHolding, RepoCall.program, Cislunar.markJobQueued, remembering_transaction,
      markJobQueuedTransaction, atomicallyFrom_select reads]
    rfl
  | some row => exact Or.inr ⟨row, rfl, markJobQueued_execHolding found _ _⟩

/-- `accept_packet_and_create_job` decides on what the session sees, and on the row when repeated. -/
theorem acceptPacketAndCreateJob_held (env : Surroundings) (free : held.job = none)
    (loaded : held.Loaded db)
    (receiptId : UUID) (values : DecodedTelemetryValues) (maxAttempts : Int)
    (actorIdentity : String) :
    (∃ error, (RepoCall.acceptPacketAndCreateJob receiptId values maxAttempts
        actorIdentity).execHolding env held db = (.error error, db) ∧
        ((∃ message, error = .valueError message) ∨ error = .deliveryNotFound receiptId)) ∨
      (0 ≤ values.sequenceNumber ∧ values.sequenceNumber ≤ maxUint32) ∧ 0 < maxAttempts ∧
        ((∃ row, db.receipts.get? receiptId = some row ∧
          HeldAcceptOutcome db row (held.seeReceipt row) values (env.uuid4 0)
            ⟨maxAttempts, actorIdentity, env.now⟩
            ((RepoCall.acceptPacketAndCreateJob receiptId values maxAttempts
              actorIdentity).execHolding env held db)) ∨
          (∃ row, db.receipts.get? receiptId = some row ∧
            (held.seeReceipt row).validationStatus = .pending) ∧
            AcceptOutcome db receiptId values (env.uuid4 1) ⟨maxAttempts, actorIdentity, env.now⟩
              ((RepoCall.acceptPacketAndCreateJob receiptId values maxAttempts
                actorIdentity).execHolding env held db)) := by
  obtain ⟨receipt, job⟩ := held
  obtain rfl : job = none := free
  cases found : db.receipts.get? receiptId with
  | some row =>
    rcases acceptPacketAndCreateJob_execHolding found
      (fun origin member => loaded.seeReceipt_evidence member) values maxAttempts actorIdentity with
      ⟨message, failed⟩ | ⟨range, attempts, happened⟩
    · exact Or.inl ⟨_, failed, Or.inl ⟨message, rfl⟩⟩
    · exact Or.inr ⟨range, attempts, happened.imp (fun held => ⟨row, rfl, held⟩)
        fun again => ⟨⟨row, rfl, again.1⟩, again.2⟩⟩
  | none =>
    -- Without a row the first attempt fails, and not with an integrity error.
    have reads : (Stmt.selectReceipt receiptId true).execHolding
        (({ receipt := receipt } : Held), db) = (.ok none, { receipt := receipt }, db) := by
      rw [Stmt.execHolding, found]
      rfl
    refine Or.inl ?_
    rw [RepoCall.execHolding, RepoCall.program, Cislunar.acceptPacketAndCreateJob]
    split_ifs
    · exact ⟨_, rfl, Or.inl ⟨_, rfl⟩⟩
    · exact ⟨_, rfl, Or.inl ⟨_, rfl⟩⟩
    · refine ⟨_, ?_, Or.inr rfl⟩
      rw [remembering_retryOnce, acceptPacketTransaction, atomicallyFrom_select reads]
      rfl
    · exact ⟨_, rfl, Or.inl ⟨_, rfl⟩⟩

/-- Every call of a session that holds what it may hold has one of the listed effects. -/
theorem RepoCall.execHolding_effect (env : Surroundings) {call : RepoCall}
    (allowed : call.MayHold held) (loaded : held.Loaded db) (ledger : LooseLedger db) :
    HeldEffect db (call.execHolding env held db).2 := by
  cases call with
  | rejectDelivery receiptId reason parsedIdentifiers actorIdentity =>
    rcases rejectDelivery_held env held db receiptId reason parsedIdentifiers actorIdentity with
      ⟨-, failed⟩ | ⟨row, found, happened⟩
    · exact congrArg Prod.snd failed ▸ .unchanged
    · exact happened.effect loaded ledger (Table.get?_eq_some.mp found).1
  | acceptPacketAndCreateJob receiptId values maxAttempts actorIdentity =>
    rcases acceptPacketAndCreateJob_held env allowed loaded receiptId values maxAttempts
      actorIdentity with ⟨_, failed, -⟩ | ⟨range, -, ⟨row, found, happened⟩ | ⟨-, happened⟩⟩
    · exact congrArg Prod.snd failed ▸ .unchanged
    · exact happened.effect range loaded ledger (Table.get?_eq_some.mp found).1
    · exact (happened.effect range).held ledger
  | markJobQueued jobId queueMessageId actorIdentity =>
    rcases markJobQueued_held env db allowed jobId queueMessageId actorIdentity with
      ⟨-, failed⟩ | ⟨row, found, happened⟩
    · exact congrArg Prod.snd failed ▸ .unchanged
    · exact happened.effect loaded (Table.get?_eq_some.mp found).1
  | _ =>
    -- The other calls are made by sessions that hold nothing.
    obtain rfl : held = {} := allowed
    rw [RepoCall.execHolding_empty]
    exact (RepoCall.exec_effect env db _).held ledger

/-- Calls that read their rows anew keep the ledger that is left where others do not. -/
theorem Reachable.looseLedger {db : Database} (reachable : Reachable db) : LooseLedger db := by
  -- On the calls, by the effect of each one.
  induction reachable with
  | empty => exact .empty
  | call env call before ih =>
    exact ((RepoCall.exec_effect env _ call).held ih).looseLedger before.accounting ih

end Calls

/-- One step in the life of a job where sessions decide on objects that they hold. -/
inductive HeldJobStep (env : Surroundings) (held : Held) :
    RepoCall → TelemetryProcessingJob → TelemetryProcessingJob → Prop where
  | kept (call : RepoCall) {job : TelemetryProcessingJob} : HeldJobStep env held call job job
  | queued {job : TelemetryProcessingJob} (retains : JobRetains (held.seeJob job) job)
      (status : (held.seeJob job).state = .pendingQueue ∨ (held.seeJob job).state = .retryWait)
      (queueMessageId actorIdentity : String) :
      HeldJobStep env held (.markJobQueued job.jobId queueMessageId actorIdentity) job
        (job.requeue (held.seeJob job) queueMessageId)
  /-- A result is found for a job that has reached the queue. -/
  | closed (call : RepoCall) {job : TelemetryProcessingJob} (queued : job.state ≠ .pendingQueue)
      (processed : ProcessedTelemetry) : HeldJobStep env held call job (closedJob job processed)
  | claimed {job : TelemetryProcessingJob} (free : isClaimable job env.now = true)
      (workerId : String) (leaseSeconds : Int) :
      HeldJobStep env held (.claimProcessingJob job.jobId workerId leaseSeconds) job
        (claimedJob job workerId leaseSeconds env.now)
  | completed {job : TelemetryProcessingJob} (status : job.state = .processing) (workerId : String)
      (result : ProcessingResultValues) (processedAt : Option Time) :
      HeldJobStep env held (.completeProcessingJob job.jobId result workerId processedAt) job
        (completedJob job (processedAt.getD env.now))
  | failed {job : TelemetryProcessingJob} (status : job.state = .processing)
      (workerId reason : String) (temporary : Bool) (baseBackoffSeconds : Int) (now : Option Time) :
      HeldJobStep env held
        (.failProcessingAttempt job.jobId workerId reason temporary baseBackoffSeconds now) job
        (jobAfterFailure job reason temporary baseBackoffSeconds (now.getD env.now))

section Jobs
variable {env : Surroundings} {db : Database} {held : Held} {row : TelemetryProcessingJob}

/-- Rows of a table that is left alone. -/
theorem heldJobStep_of_same (call : RepoCall) {jobs : Table TelemetryProcessingJob.jobId}
    (same : jobs = db.jobs) (member : row ∈ jobs) :
    ∃ job ∈ db.jobs, HeldJobStep env held call job row :=
  ⟨row, same ▸ member, .kept call⟩

/-- What a marked job goes through. -/
theorem HeldQueueOutcome.jobStep {job : TelemetryProcessingJob}
    {queueMessageId actorIdentity : String} {outcome : Except StorageError Bool × Database}
    (happened : HeldQueueOutcome db job (held.seeJob job) queueMessageId actorIdentity outcome)
    (loaded : held.Loaded db) (stored : job ∈ db.jobs) (member : row ∈ outcome.2.jobs) :
    ∃ old ∈ db.jobs,
      HeldJobStep env held (.markJobQueued job.jobId queueMessageId actorIdentity) old row := by
  -- The only job that is written is the one that is marked.
  cases happened with
  | repeated | renamed | refused => exact heldJobStep_of_same _ rfl member
  | queued status =>
    rw [queue_keepJob stored _ (held.seeJob_jobId job)] at member
    rcases Table.mem_set.mp member with ⟨rfl, -⟩ | ⟨old, -⟩
    · exact ⟨job, stored, .queued (loaded.seeJob_retains stored) status _ _⟩
    · exact heldJobStep_of_same _ rfl old

/-- An acceptance of a held object creates a job at most. -/
theorem HeldAcceptOutcome.job_origin {receipt object : TelemetryDeliveryReceipt}
    {values : DecodedTelemetryValues} {jobId : UUID} {options : AcceptanceOptions}
    {outcome : Except StorageError PacketAcceptanceResult × Database}
    (happened : HeldAcceptOutcome db receipt object values jobId options outcome)
    (attempts : 0 < options.maxAttempts) (member : row ∈ outcome.2.jobs) :
    row ∈ db.jobs ∨ JobCreated db row := by
  -- Only an accepted packet brings a job.
  cases happened with
  | replayed | refused => exact Or.inl member
  | settled pending settles =>
    cases settles with
    | duplicated | conflicted | stateConflicted | integrity => exact Or.inl member
    | accepted _ _ _ _ _ jobAdmitted =>
      rcases (Table.mem_insert jobAdmitted.1).mp member with old | rfl
      · exact Or.inl old
      · exact Or.inr ⟨jobAdmitted.1, _, _, _, attempts, rfl⟩

/-- A verdict on a held object leaves the jobs alone. -/
theorem HeldRejectOutcome.jobs {receipt object : TelemetryDeliveryReceipt} {reason : String}
    {parsedIdentifiers : Option JsonObject} {actorIdentity : String}
    {outcome : Except StorageError DeliveryRecordResult × Database}
    (happened : HeldRejectOutcome db receipt object reason parsedIdentifiers actorIdentity
      outcome) : outcome.2.jobs = db.jobs := by
  -- A rejection writes the receipt and an audit event.
  cases happened <;> rfl

/-- What a claimed job goes through. -/
theorem ClaimOutcome.heldJobStep {jobId : UUID} {workerId : String} {leaseSeconds : Int}
    {outcome : Except StorageError (Option TelemetryWorkItem) × Database}
    (happened : ClaimOutcome db jobId workerId leaseSeconds env.now outcome)
    (ledger : LooseLedger db) (member : row ∈ outcome.2.jobs) :
    ∃ job ∈ db.jobs,
      HeldJobStep env held (.claimProcessingJob jobId workerId leaseSeconds) job row := by
  -- The job of a packet with a result is closed; another one is taken if it is free.
  cases happened with
  | missing | finished | unavailable | dangling => exact heldJobStep_of_same _ rfl member
  | @closed job processed found done status =>
    obtain ⟨stored, rfl⟩ := Table.get?_eq_some.mp found
    rcases mem_set_jobs found (by rfl) member with rfl | ⟨old, -⟩
    · exact ⟨job, stored, .closed _ (ledger.queued_of_result stored done) processed⟩
    · exact heldJobStep_of_same _ rfl old
  | @taken job packet receipt found undone free known source =>
    obtain ⟨stored, rfl⟩ := Table.get?_eq_some.mp found
    rcases mem_set_jobs found (by rfl) member with rfl | ⟨old, -⟩
    · exact ⟨job, stored, .claimed free workerId leaseSeconds⟩
    · exact heldJobStep_of_same _ rfl old

/-- What a completed job goes through. -/
theorem CompleteOutcome.heldJobStep {jobId : UUID} {result : ProcessingResultValues}
    {workerId : String} {processedAt : Option Time}
    {outcome : Except StorageError ProcessedTelemetry × Database}
    (happened : CompleteOutcome db jobId result workerId (processedAt.getD env.now) outcome)
    (ledger : LooseLedger db) (member : row ∈ outcome.2.jobs) :
    ∃ job ∈ db.jobs,
      HeldJobStep env held (.completeProcessingJob jobId result workerId processedAt) job row := by
  cases happened with
  | missing | conflicting | refused | integrity => exact heldJobStep_of_same _ rfl member
  | @closed job existing found done same =>
    obtain ⟨stored, rfl⟩ := Table.get?_eq_some.mp found
    -- A packet has a result only once its job has been queued.
    rcases mem_set_jobs found (by rfl) member with rfl | ⟨old, -⟩
    · exact ⟨job, stored, .closed _ (ledger.queued_of_result stored done) existing⟩
    · exact heldJobStep_of_same _ rfl old
  | @completed job found undone status owned admitted =>
    obtain ⟨stored, rfl⟩ := Table.get?_eq_some.mp found
    rcases mem_set_jobs found (by rfl) member with rfl | ⟨old, -⟩
    · exact ⟨job, stored, .completed status workerId result processedAt⟩
    · exact heldJobStep_of_same _ rfl old

/-- What a job goes through whose attempt has failed. -/
theorem FailOutcome.heldJobStep {jobId : UUID} {workerId reason : String} {temporary : Bool}
    {baseBackoffSeconds : Int} {now : Option Time}
    {outcome : Except StorageError ProcessingFailureResult × Database}
    (happened : FailOutcome db jobId workerId reason temporary baseBackoffSeconds
      (now.getD env.now) outcome) (member : row ∈ outcome.2.jobs) :
    ∃ job ∈ db.jobs, HeldJobStep env held
      (.failProcessingAttempt jobId workerId reason temporary baseBackoffSeconds now) job row := by
  -- Only the first report of a failure writes the job.
  cases happened with
  | missing | repeated | refused => exact heldJobStep_of_same _ rfl member
  | @failed job found status owned =>
    obtain ⟨stored, rfl⟩ := Table.get?_eq_some.mp found
    rcases mem_set_jobs found (jobAfterFailure_jobId _ _ _ _ _) member with rfl | ⟨old, -⟩
    · exact ⟨job, stored, .failed status workerId reason temporary baseBackoffSeconds now⟩
    · exact heldJobStep_of_same _ rfl old

/-- Every job after a call has taken a step from a job before it, or has just been created. -/
theorem RepoCall.heldJobStep_of_mem {call : RepoCall} (allowed : call.MayHold held)
    (loaded : held.Loaded db) (ledger : LooseLedger db)
    (member : row ∈ (call.execHolding env held db).2.jobs) :
    (∃ job ∈ db.jobs, HeldJobStep env held call job row) ∨ JobCreated db row := by
  -- One case per call. The marks, rejections and acceptances decide on what is held; the others
  -- hold nothing, so that their outcomes on rows apply.
  cases call with
  | rejectDelivery receiptId reason parsedIdentifiers actorIdentity =>
    rcases rejectDelivery_held env held db receiptId reason parsedIdentifiers actorIdentity with
      ⟨-, failed⟩ | ⟨_, -, happened⟩
    · exact Or.inl (heldJobStep_of_same _ (congrArg (·.2.jobs) failed) member)
    · exact Or.inl (heldJobStep_of_same _ happened.jobs member)
  | acceptPacketAndCreateJob receiptId values maxAttempts actorIdentity =>
    rcases acceptPacketAndCreateJob_held env allowed loaded receiptId values maxAttempts
      actorIdentity with ⟨_, failed, -⟩ | ⟨-, attempts, ⟨_, -, happened⟩ | ⟨-, happened⟩⟩
    · exact Or.inl (heldJobStep_of_same _ (congrArg (·.2.jobs) failed) member)
    · exact (happened.job_origin attempts member).imp_left (heldJobStep_of_same _ rfl)
    · exact (happened.job_origin attempts member).imp_left (heldJobStep_of_same _ rfl)
  | markJobQueued jobId queueMessageId actorIdentity =>
    rcases markJobQueued_held env db allowed jobId queueMessageId actorIdentity with
      ⟨-, failed⟩ | ⟨job, found, happened⟩
    · exact Or.inl (heldJobStep_of_same _ (congrArg (·.2.jobs) failed) member)
    · obtain ⟨stored, rfl⟩ := Table.get?_eq_some.mp found
      exact Or.inl (happened.jobStep loaded stored member)
  | claimProcessingJob jobId workerId leaseSeconds =>
    obtain rfl : held = {} := allowed
    rw [execHolding_empty] at member
    rcases claimProcessingJob_exec env db jobId workerId leaseSeconds with
      ⟨_, failed⟩ | ⟨-, happened⟩
    · exact Or.inl (heldJobStep_of_same _ (congrArg (·.2.jobs) failed) member)
    · exact Or.inl (happened.heldJobStep ledger member)
  | completeProcessingJob jobId result workerId processedAt =>
    obtain rfl : held = {} := allowed
    rw [execHolding_empty] at member
    have happened := completeProcessingJob_exec env db jobId result workerId processedAt
    exact Or.inl (happened.heldJobStep ledger member)
  | failProcessingAttempt jobId workerId reason temporary baseBackoffSeconds now =>
    obtain rfl : held = {} := allowed
    rw [execHolding_empty] at member
    rcases failProcessingAttempt_exec env db jobId workerId reason temporary baseBackoffSeconds now
      with ⟨_, failed⟩ | happened
    · exact Or.inl (heldJobStep_of_same _ (congrArg (·.2.jobs) failed) member)
    · exact Or.inl (happened.heldJobStep member)
  | recordDelivery delivery receiptId =>
    obtain rfl : held = {} := allowed
    rw [execHolding_empty] at member
    rcases recordDelivery_serially delivery receiptId env.uuid4 db with ⟨_, failed⟩ | ⟨_, happened⟩
    · exact Or.inl (heldJobStep_of_same _ (congrArg (·.2.jobs) failed) member)
    · exact Or.inl (heldJobStep_of_same _ happened.jobs member)
  | recordAuditEvent event =>
    obtain rfl : held = {} := allowed
    rw [execHolding_empty] at member
    exact Or.inl (heldJobStep_of_same _ rfl member)
  | pendingQueueJobs | recoverableQueueJobs | getDelivery | getPacket | getProcessed | getJob
  | getJobForPacket | listAuditEvents | processingQueueDepth =>
    obtain rfl : held = {} := allowed
    rw [execHolding_empty, RepoCall.read_exec] at member
    · exact Or.inl (heldJobStep_of_same _ rfl member)
    · rfl

/-- A step keeps the identity of its job. -/
theorem HeldJobStep.jobId {call : RepoCall} {job : TelemetryProcessingJob}
    (step : HeldJobStep env held call job row) : row.jobId = job.jobId := by
  -- By the kind of step; each keeps the identifier.
  cases step with
  | failed => exact jobAfterFailure_jobId _ _ _ _ _
  | kept | queued | closed | claimed | completed => rfl

end Jobs

end Cislunar

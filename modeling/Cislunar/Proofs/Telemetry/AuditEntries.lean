import Cislunar.Proofs.Telemetry.JobRecord
import Cislunar.Proofs.Telemetry.Leases

/-!
The audit events of one call: they report exactly what the call does to the jobs and the receipts.

The branches that touch a row without an event are shown to be unreachable or to change nothing.
-/

namespace Cislunar

open Foundation

/-- The event reports a state of a job. -/
def TelemetryAuditEvent.reportsJob (jobId : UUID) (event : TelemetryAuditEvent) : Bool :=
  -- A duplicate delivery names the job of its packet without changing it.
  event.jobId = some jobId ∧ event.eventName ≠ "telemetry.delivery.duplicate"

/-- The event is the gateway's verdict on a receipt. -/
def TelemetryAuditEvent.reportsReceipt (receiptId : UUID) (event : TelemetryAuditEvent) : Bool :=
  event.receiptId = some receiptId ∧ event.serviceName = "ground-api"

/-- The outcomes of the events that satisfy a condition, in commit order. -/
def outcomesOf (condition : TelemetryAuditEvent → Bool) (events : List TelemetryAuditEvent) :
    List String :=
  (events.filter condition).map (·.outcome)

/-- The outcomes of a longer log continue those of the shorter one. -/
@[simp] theorem outcomesOf_append (condition : TelemetryAuditEvent → Bool)
    (first second : List TelemetryAuditEvent) :
    outcomesOf condition (first ++ second) =
      outcomesOf condition first ++ outcomesOf condition second := by
  simp [outcomesOf]

/-- An empty log has no outcomes. -/
@[simp] theorem outcomesOf_nil (condition : TelemetryAuditEvent → Bool) :
    outcomesOf condition [] = [] := rfl

/-- A single event gives its outcome where it satisfies the condition. -/
theorem outcomesOf_singleton (condition : TelemetryAuditEvent → Bool)
    (event : TelemetryAuditEvent) :
    outcomesOf condition [event] = if condition event then [event.outcome] else [] := by
  -- By whether the event meets the condition.
  cases met : condition event <;> simp [outcomesOf, met]

/-- The outcome that the log shows for a receipt of some status. -/
def DeliveryValidationStatus.reported : DeliveryValidationStatus → String
  | pending => "RECORDED"
  | accepted => "PENDING_QUEUE"
  | rejected => "REJECTED"
  | duplicate => "DUPLICATE"
  | conflict => "CONFLICT"

/-- The state changes of jobs, each with the operations that make it. -/
inductive Moves : RepoCall → Option ProcessingJobState → ProcessingJobState → Prop where
  | created (receiptId : UUID) (values : DecodedTelemetryValues) (maxAttempts : Int)
      (actorIdentity : String) :
      Moves (.acceptPacketAndCreateJob receiptId values maxAttempts actorIdentity) none .pendingQueue
  | queued {before : ProcessingJobState} (waiting : before = .pendingQueue ∨ before = .retryWait)
      (jobId : UUID) (queueMessageId actorIdentity : String) :
      Moves (.markJobQueued jobId queueMessageId actorIdentity) (some before) .queued
  /-- From `PROCESSING` the lease of another claim has expired. -/
  | claimed {before : ProcessingJobState}
      (ready : before = .queued ∨ before = .retryWait ∨ before = .processing) (jobId : UUID)
      (workerId : String) (leaseSeconds : Int) :
      Moves (.claimProcessingJob jobId workerId leaseSeconds) (some before) .processing
  | completed (jobId : UUID) (result : ProcessingResultValues) (workerId : String)
      (processedAt : Option Time) :
      Moves (.completeProcessingJob jobId result workerId processedAt) (some .processing) .complete
  | failed {ended : ProcessingJobState} (verdict : ended = .retryWait ∨ ended = .failed)
      (jobId : UUID) (workerId reason : String) (temporary : Bool) (baseBackoffSeconds : Int)
      (now : Option Time) :
      Moves (.failProcessingAttempt jobId workerId reason temporary baseBackoffSeconds now)
        (some .processing) ended

/-- What a call appends to the log about a job, next to what it does to the row. -/
inductive JobEntry (call : RepoCall) :
    Option TelemetryProcessingJob → Option TelemetryProcessingJob → List String → Prop where
  | silent (job : Option TelemetryProcessingJob) : JobEntry call job job []
  | moved {before : Option TelemetryProcessingJob} {row : TelemetryProcessingJob}
      (made : Moves call (before.map (·.state)) row.state)
      (attempts : row.attemptCount = ((before.map (·.attemptCount)).getD 0) +
        if row.state = .processing then 1 else 0)
      (changed : before ≠ some row) :
      JobEntry call before (some row) [row.state.value]

/-- What a call appends to the log about a receipt, next to what it does to the status. -/
inductive ReceiptEntry :
    Option DeliveryValidationStatus → Option DeliveryValidationStatus → List String → Prop where
  | silent (status : Option DeliveryValidationStatus) : ReceiptEntry status status []
  | settled (before : Option DeliveryValidationStatus) (status : DeliveryValidationStatus) :
      ReceiptEntry before (some status) [status.reported]

/-- The status of a receipt. -/
def Database.statusOf (db : Database) (receiptId : UUID) : Option DeliveryValidationStatus :=
  (db.receipts.get? receiptId).map (·.validationStatus)

/-- The events a call appends report exactly what it does to the jobs and the receipts. -/
structure Logged (call : RepoCall) (db after : Database) (news : List TelemetryAuditEvent) :
    Prop where
  auditEvents : after.auditEvents = db.auditEvents ++ news
  jobs : ∀ jobId, JobEntry call (db.jobs.get? jobId) (after.jobs.get? jobId)
    (outcomesOf (·.reportsJob jobId) news)
  receipts : ∀ receiptId, ReceiptEntry (db.statusOf receiptId) (after.statusOf receiptId)
    (outcomesOf (·.reportsReceipt receiptId) news)

section Entries
variable {call : RepoCall} {db after : Database}

/-- A call that changes nothing appends nothing. -/
theorem Logged.unchanged (call : RepoCall) (db : Database) : Logged call db db [] where
  auditEvents := (List.append_nil _).symm
  jobs _ := .silent _
  receipts _ := .silent _

/-- A call that changes nothing leaves an unchanged log, in whatever form the database comes. -/
theorem Logged.of_eq (call : RepoCall) (same : after = db) : ∃ news, Logged call db after news :=
  ⟨[], same ▸ .unchanged call after⟩

/-- An event about no job is silent about all of them. -/
theorem jobEntry_silent {event : TelemetryAuditEvent} {jobId : UUID}
    (unnamed : event.jobId = none ∨ event.eventName = "telemetry.delivery.duplicate")
    (job : Option TelemetryProcessingJob) :
    JobEntry call job job (outcomesOf (·.reportsJob jobId) [event]) := by
  -- Duplicates name the job of the stored packet, which they do not change.
  have quiet : event.reportsJob jobId = false := by
    rcases unnamed with none | duplicate
    · simp [TelemetryAuditEvent.reportsJob, none]
    · simp [TelemetryAuditEvent.reportsJob, duplicate]
  rw [outcomesOf_singleton, quiet]
  exact .silent job

/-- An event that is not the gateway's verdict is silent about all receipts. -/
theorem receiptEntry_silent {event : TelemetryAuditEvent} {receiptId : UUID}
    (unnamed : event.receiptId = none ∨ event.serviceName ≠ "ground-api")
    (status : Option DeliveryValidationStatus) :
    ReceiptEntry status status (outcomesOf (·.reportsReceipt receiptId) [event]) := by
  -- Workers name receipts, which they do not change.
  have quiet : event.reportsReceipt receiptId = false := by
    rcases unnamed with none | foreign
    · simp [TelemetryAuditEvent.reportsReceipt, none]
    · simp [TelemetryAuditEvent.reportsReceipt, foreign]
  rw [outcomesOf_singleton, quiet]
  exact .silent status

/-- The gateway's verdict on one receipt is silent about the others. -/
theorem receiptEntry_settled {event : TelemetryAuditEvent} {row : TelemetryDeliveryReceipt}
    (service : event.serviceName = "ground-api") (named : event.receiptId = some row.receiptId)
    (outcome : event.outcome = row.validationStatus.reported)
    (before later : UUID → Option DeliveryValidationStatus) (receiptId : UUID)
    (written : later receiptId =
      if row.receiptId = receiptId then some row.validationStatus else before receiptId) :
    ReceiptEntry (before receiptId) (later receiptId)
      (outcomesOf (·.reportsReceipt receiptId) [event]) := by
  rw [outcomesOf_singleton, written]
  -- The event counts for its own receipt alone.
  by_cases same : row.receiptId = receiptId
  · have told : event.reportsReceipt receiptId = true := by
      simp [TelemetryAuditEvent.reportsReceipt, service, named, same]
    rw [told, if_pos same, outcome]
    exact .settled _ _
  · have quiet : event.reportsReceipt receiptId = false := by
      simp [TelemetryAuditEvent.reportsReceipt, named, same]
    rw [quiet, if_neg same]
    exact .silent _

/-- A new receipt answers under its identifier. -/
theorem statusOf_insert {row : TelemetryDeliveryReceipt}
    (unused : db.receipts.get? row.receiptId = none)
    (receipts : after.receipts = db.receipts.insert row) (receiptId : UUID) :
    after.statusOf receiptId =
      if row.receiptId = receiptId then some row.validationStatus else db.statusOf receiptId := by
  -- The identifier was unused, so only its own status changes.
  rw [Database.statusOf, receipts, Table.get?_insert unused]
  split_ifs <;> rfl

/-- A rewritten receipt answers under its identifier. -/
theorem statusOf_set {old row : TelemetryDeliveryReceipt} (stored : old ∈ db.receipts)
    (same : row.receiptId = old.receiptId) (receipts : after.receipts = db.receipts.set row)
    (receiptId : UUID) :
    after.statusOf receiptId =
      if row.receiptId = receiptId then some row.validationStatus else db.statusOf receiptId := by
  -- The identifier was used, so only its own status changes.
  have found : db.receipts.get? row.receiptId = some old := same ▸ Table.get?_key stored
  rw [Database.statusOf, receipts, Table.get?_set_of_used found rfl]
  split_ifs <;> rfl

/-- A receipt that is recorded or settled is logged by the event that goes with it. -/
theorem Logged.receipt {row : TelemetryDeliveryReceipt} {event : TelemetryAuditEvent}
    (jobs : after.jobs = db.jobs) (auditEvents : after.auditEvents = db.auditEvents ++ [event])
    (written : ∀ receiptId, after.statusOf receiptId =
      if row.receiptId = receiptId then some row.validationStatus else db.statusOf receiptId)
    (service : event.serviceName = "ground-api") (named : event.receiptId = some row.receiptId)
    (outcome : event.outcome = row.validationStatus.reported)
    (unnamed : event.jobId = none ∨ event.eventName = "telemetry.delivery.duplicate") :
    Logged call db after [event] where
  auditEvents := auditEvents
  jobs jobId := by
    -- Jobs stay, and no event of the gateway is about the progress of one.
    rw [jobs]
    exact jobEntry_silent unnamed _
  receipts receiptId :=
    receiptEntry_settled service named outcome db.statusOf after.statusOf receiptId
      (written receiptId)

/-- A settled receipt is logged by the event that goes with it. -/
theorem Logged.settle {receipt row : TelemetryDeliveryReceipt} {event : TelemetryAuditEvent}
    (stored : receipt ∈ db.receipts) (same : row.receiptId = receipt.receiptId)
    (service : event.serviceName = "ground-api") (named : event.receiptId = some row.receiptId)
    (outcome : event.outcome = row.validationStatus.reported)
    (unnamed : event.jobId = none ∨ event.eventName = "telemetry.delivery.duplicate") :
    Logged call db (db.settle row event) [event] :=
  .receipt rfl rfl (statusOf_set stored same rfl) service named outcome unnamed

/-- The event of one job is silent about the others. -/
theorem jobEntry_moved {event : TelemetryAuditEvent} {row : TelemetryProcessingJob}
    (named : event.jobId = some row.jobId)
    (distinct : event.eventName ≠ "telemetry.delivery.duplicate")
    (outcome : event.outcome = row.state.value)
    {before later : UUID → Option TelemetryProcessingJob} (jobId : UUID)
    (written : later jobId = if row.jobId = jobId then some row else before jobId)
    (made : Moves call ((before row.jobId).map (·.state)) row.state)
    (attempts : row.attemptCount = (((before row.jobId).map (·.attemptCount)).getD 0) +
      if row.state = .processing then 1 else 0)
    (changed : before row.jobId ≠ some row) :
    JobEntry call (before jobId) (later jobId) (outcomesOf (·.reportsJob jobId) [event]) := by
  rw [outcomesOf_singleton, written]
  -- The event counts for its own job alone.
  by_cases same : row.jobId = jobId
  · subst same
    have told : event.reportsJob row.jobId = true := by
      simp [TelemetryAuditEvent.reportsJob, named, distinct]
    rw [told, if_pos rfl, if_pos rfl, outcome]
    exact .moved made attempts changed
  · have quiet : event.reportsJob jobId = false := by
      simp [TelemetryAuditEvent.reportsJob, named, same]
    rw [quiet, if_neg same]
    exact .silent _

/-- A job that changes its state is logged by the event that goes with it. -/
theorem Logged.job {job row : TelemetryProcessingJob} {event : TelemetryAuditEvent}
    (found : db.jobs.get? row.jobId = some job) (jobs : after.jobs = db.jobs.set row)
    (auditEvents : after.auditEvents = db.auditEvents ++ [event])
    (statuses : ∀ receiptId, after.statusOf receiptId = db.statusOf receiptId)
    (named : event.jobId = some row.jobId)
    (distinct : event.eventName ≠ "telemetry.delivery.duplicate")
    (outcome : event.outcome = row.state.value)
    (unnamed : event.receiptId = none ∨ event.serviceName ≠ "ground-api")
    (made : Moves call (some job.state) row.state)
    (attempts : row.attemptCount = job.attemptCount + if row.state = .processing then 1 else 0)
    (changed : job ≠ row) : Logged call db after [event] where
  auditEvents := auditEvents
  jobs jobId := by
    -- The row is replaced under its own key.
    have written : after.jobs.get? jobId =
        if row.jobId = jobId then some row else db.jobs.get? jobId := by
      rw [jobs, Table.get?_set_of_used found rfl]
    apply jobEntry_moved named distinct outcome jobId written
    · rw [found]
      exact made
    · rw [found]
      exact attempts
    · rw [found]
      exact fun same => changed (Option.some.inj same)
  receipts receiptId := by
    rw [statuses]
    exact receiptEntry_silent unnamed _

/-- A job that is written back as it was is not logged. -/
theorem Logged.rewritten {job : TelemetryProcessingJob} (stored : job ∈ db.jobs) :
    Logged call db (db.move job []) [] where
  auditEvents := rfl
  jobs jobId := by
    -- The row is replaced by itself.
    have same : (db.move job []).jobs.get? jobId = db.jobs.get? jobId := by
      rw [Database.move, Table.get?_set_of_used (Table.get?_key stored) rfl]
      by_cases key : job.jobId = jobId
      · rw [if_pos key, ← key, Table.get?_key stored]
      · rw [if_neg key]
    rw [same]
    exact .silent _
  receipts _ := .silent _

end Entries

/-- The result of a job was stored when the job was completed. -/
def ResultsDated (db : Database) : Prop :=
  ∀ job ∈ db.jobs, ∀ processed, db.processed.get? job.packetId = some processed →
    job.completedAt = some processed.processedAt

section Dates
variable {db after : Database}

/-- Writing a job whose own date is right keeps the dates right. -/
theorem ResultsDated.write (dated : ResultsDated db) {row : TelemetryProcessingJob}
    {processed : Table ProcessedTelemetry.packetId}
    (kept : ∀ job ∈ db.jobs, job.jobId ≠ row.jobId →
      processed.get? job.packetId = db.processed.get? job.packetId)
    (own : ∀ result, processed.get? row.packetId = some result →
      row.completedAt = some result.processedAt) :
    ∀ job ∈ db.jobs.set row, ∀ result, processed.get? job.packetId = some result →
      job.completedAt = some result.processedAt := by
  -- The written row is dated by itself, every other one as before.
  intro job member result done
  rcases Table.mem_set.mp member with ⟨rfl, -⟩ | ⟨old, different⟩
  · exact own result done
  · rw [kept job old different] at done
    exact dated job old result done

/-- Every effect keeps the dates right. -/
theorem ResultsDated.effect (ledger : Ledger db) (dated : ResultsDated db)
    (effect : Effect db after) : ResultsDated after := by
  -- A job that is not complete has no result yet.
  have undone : ∀ {job : TelemetryProcessingJob} {result : ProcessedTelemetry}, job ∈ db.jobs →
      job.state ≠ .complete → db.processed.get? job.packetId ≠ some result :=
    fun member unfinished done => unfinished (ledger.complete_of_result member done)
  cases effect with
  | unchanged | audited | anonymous | first | reused | rejected | duplicated | conflicted
  | stateConflicted => exact dated
  | accepted _ _ _ _ _ _ jobAdmitted =>
    intro job member result done
    rcases (Table.mem_insert jobAdmitted.1).mp member with old | rfl
    · exact dated job old result done
    · -- The result would belong to another job of the packet.
      obtain ⟨stored, named⟩ := Table.get?_eq_some.mp done
      obtain ⟨owner, among, -, same, -⟩ := ledger.processed result stored
      exact absurd (same.trans named) (jobAdmitted.2.1 owner among)
  | @queued job member status =>
    have unfinished : job.state ≠ .complete := by
      rcases status with state | state <;> simp [state]
    apply dated.write (fun _ _ _ => rfl)
    intro result done
    exact (undone member unfinished done).elim
  | @closed job processed member done =>
    apply dated.write (fun _ _ _ => rfl)
    intro result again
    cases done.symm.trans again
    rfl
  | @claimed job member none =>
    apply dated.write (fun _ _ _ => rfl)
    intro result done
    cases none.symm.trans done
  | @completed job result workerId completionTime member status owned admitted =>
    have answers := Table.get?_insert admitted.1
    apply dated.write
    · intro other old different
      apply (answers other.packetId).trans (if_neg _)
      intro same
      cases ledger.jobUnique other old job member same.symm
      exact different rfl
    · intro stored done
      cases ((answers job.packetId).trans (if_pos rfl)).symm.trans done
      rfl
  | @failed job member status reason temporary baseBackoffSeconds failureTime =>
    apply dated.write (fun _ _ _ => rfl)
    intro result done
    have packet : (jobAfterFailure job reason temporary baseBackoffSeconds failureTime).packetId =
        job.packetId := by
      rw [jobAfterFailure]
      split_ifs <;> rfl
    rw [packet] at done
    exact absurd done (undone member (by simp [status]))

end Dates

/-- The results of every reachable database were stored when their jobs were completed. -/
theorem Reachable.dated {db : Database} (reachable : Reachable db) : ResultsDated db := by
  -- On the calls, by the effect of each one.
  induction reachable with
  | empty => exact fun job member => absurd member (Table.not_mem_empty job)
  | call env call before ih => exact ih.effect before.ledger (call.exec_effect env _)

/-- Closing a job that is complete changes nothing. -/
theorem Reachable.closedJob_eq {db : Database} (reachable : Reachable db)
    {job : TelemetryProcessingJob} (stored : job ∈ db.jobs) {processed : ProcessedTelemetry}
    (done : db.processed.get? job.packetId = some processed) : closedJob job processed = job := by
  -- The row has the state, the date and the lease that closing would give it.
  have complete := reachable.ledger.complete_of_result stored done
  have dated := reachable.dated job stored processed done
  have unleased : job.leaseExpiresAt = none := by
    have leased := (reachable.jobs_fit job stored).lease
    simpa [complete] using leased
  rw [closedJob, ← complete, ← dated, ← unleased]

section Outcomes
variable {call : RepoCall} {db : Database}

/-- A recorded delivery is logged as recorded or as a conflict. -/
theorem RecordOutcome.logged {delivery : Delivery} {receiptId : UUID}
    {outcome : Except StorageError DeliveryRecordResult × Database}
    (happened : RecordOutcome db delivery receiptId outcome) :
    ∃ news, Logged call db outcome.2 news := by
  -- Every delivery that adds a receipt records one event with it.
  cases happened with
  | replay | integrity | dangling => exact Logged.of_eq call rfl
  | anonymous unnamed admitted =>
    exact ⟨_, .receipt rfl rfl (statusOf_insert admitted.1 rfl) rfl rfl rfl (Or.inl rfl)⟩
  | first named admitted unowned =>
    exact ⟨_, .receipt rfl rfl (statusOf_insert admitted.1 rfl) rfl rfl rfl (Or.inl rfl)⟩
  | reused named owned present link different admitted =>
    exact ⟨_, .receipt rfl rfl (statusOf_insert admitted.1 rfl) rfl rfl rfl (Or.inl rfl)⟩

/-- A rejection is logged as one. -/
theorem RejectOutcome.logged {receiptId : UUID} {reason : String}
    {parsedIdentifiers : Option JsonObject} {actorIdentity : String}
    {outcome : Except StorageError DeliveryRecordResult × Database}
    (happened : RejectOutcome db receiptId reason parsedIdentifiers actorIdentity outcome) :
    ∃ news, Logged call db outcome.2 news := by
  -- Only the rejection of a pending receipt writes, and it writes one event.
  cases happened with
  | missing | repeated | refused => exact Logged.of_eq call rfl
  | rejected found status =>
    obtain ⟨stored, rfl⟩ := Table.get?_eq_some.mp found
    exact ⟨_, .settle stored rfl rfl rfl rfl (Or.inl rfl)⟩

/-- A settled receipt is logged with its verdict, and a new job as waiting for the queue. -/
theorem AcceptOutcome.logged {receiptId jobId : UUID} {values : DecodedTelemetryValues}
    {maxAttempts : Int} {actorIdentity : String} {now : Time}
    {outcome : Except StorageError PacketAcceptanceResult × Database}
    (happened : AcceptOutcome db receiptId values jobId
      { maxAttempts := maxAttempts, actorIdentity := actorIdentity, now := now } outcome) :
    ∃ news, Logged (.acceptPacketAndCreateJob receiptId values maxAttempts actorIdentity) db
      outcome.2 news := by
  cases happened with
  | missing | replayed | refused => exact Logged.of_eq _ rfl
  | @settled receipt found status _ settles =>
    obtain ⟨stored, rfl⟩ := Table.get?_eq_some.mp found
    -- A verdict names its receipt; only an acceptance names a job that it creates.
    cases settles with
    | integrity => exact Logged.of_eq _ rfl
    | duplicated =>
      exact ⟨_, .settle stored rfl rfl rfl rfl (Or.inr rfl)⟩
    | conflicted | stateConflicted => exact ⟨_, .settle stored rfl rfl rfl rfl (Or.inl rfl)⟩
    | @accepted state disposition missingBefore _ _ _ _ _ jobAdmitted =>
      refine ⟨_, rfl, fun wanted => ?_, fun wanted => ?_⟩
      -- The new job had no row before, and no attempt has been counted.
      · have unused := jobAdmitted.1
        apply jobEntry_moved rfl (by simp [acceptedEvent]) rfl wanted (Table.get?_insert unused wanted)
        · rw [unused]
          exact .created _ _ _ _
        · rw [unused]
          rfl
        · rw [unused]
          simp
      · have settled : ∀ receiptId, (db.addPacket receipt values state disposition missingBefore
            jobId { maxAttempts := maxAttempts, actorIdentity := actorIdentity, now := now }).statusOf
              receiptId = if (acceptedReceipt receipt values).receiptId = receiptId
                then some (acceptedReceipt receipt values).validationStatus
                else db.statusOf receiptId :=
          statusOf_set stored rfl rfl
        exact receiptEntry_settled rfl rfl rfl db.statusOf _ wanted (settled wanted)

/-- A queued job is logged as queued. -/
theorem QueueOutcome.logged {jobId : UUID} {queueMessageId actorIdentity : String}
    {outcome : Except StorageError Bool × Database}
    (happened : QueueOutcome db jobId queueMessageId actorIdentity outcome) :
    ∃ news, Logged (.markJobQueued jobId queueMessageId actorIdentity) db outcome.2 news := by
  cases happened with
  | missing | repeated | renamed | refused => exact Logged.of_eq _ rfl
  | @queued job found status =>
    obtain ⟨stored, rfl⟩ := Table.get?_eq_some.mp found
    have stays : db.jobs.get? (queuedJob job queueMessageId).jobId = some job := found
    refine ⟨_, .job stays rfl rfl (fun receiptId => ?_) rfl (by simp [queuedEvent]) rfl (Or.inl rfl)
      (.queued status _ _ _) rfl fun same => ?_⟩
    · -- The accepted receipts of the packet change their queue status only.
      rw [Database.statusOf, Database.queue, Table.get?_modify, Database.statusOf, Option.map_map]
      apply Option.map_congr
      intro receipt _
      simp only [Function.comp_apply]
      split_ifs <;> rfl
    -- The job was waiting, so its row has changed.
    · have state := congrArg (·.state) same
      rcases status with before | before <;> simp [queuedJob, before] at state

/-- A claimed job is logged as being processed. -/
theorem ClaimOutcome.logged {jobId : UUID} {workerId : String} {leaseSeconds : Int} {now : Time}
    {outcome : Except StorageError (Option TelemetryWorkItem) × Database} (ledger : Ledger db)
    (happened : ClaimOutcome db jobId workerId leaseSeconds now outcome) :
    ∃ news, Logged (.claimProcessingJob jobId workerId leaseSeconds) db outcome.2 news := by
  cases happened with
  | missing | finished | unavailable | dangling => exact Logged.of_eq _ rfl
  -- A job whose packet has a result is complete, so no claim closes it.
  | closed found done status =>
    exact absurd (ledger.complete_of_result (Table.get?_eq_some.mp found).1 done) status
  | @taken job packet receipt found undone free =>
    obtain ⟨stored, rfl⟩ := Table.get?_eq_some.mp found
    have ready : job.state = .queued ∨ job.state = .retryWait ∨ job.state = .processing := by
      obtain ⟨unqueued, incomplete, unfailed⟩ := isClaimable_state free
      cases state : job.state <;> simp_all
    have stays : db.jobs.get? (claimedJob job workerId leaseSeconds now).jobId = some job := found
    refine ⟨_, .job stays rfl rfl (fun _ => rfl) rfl (by simp [claimedEvent]) rfl
      (Or.inr (by simp [claimedEvent])) (.claimed ready _ _ _) rfl fun same => ?_⟩
    -- A claim counts an attempt, so the row has changed.
    have count := congrArg (·.attemptCount) same
    simp [claimedJob] at count

/-- A completed job is logged as complete. -/
theorem CompleteOutcome.logged {jobId : UUID} {result : ProcessingResultValues} {workerId : String}
    {processedAt : Option Time} {completionTime : Time}
    {outcome : Except StorageError ProcessedTelemetry × Database} (reachable : Reachable db)
    (happened : CompleteOutcome db jobId result workerId completionTime outcome) :
    ∃ news, Logged (.completeProcessingJob jobId result workerId processedAt) db outcome.2
      news := by
  cases happened with
  | missing | conflicting | refused | integrity => exact Logged.of_eq _ rfl
  -- The job is written back without an event, and exactly as it was.
  | closed found done =>
    have stored := (Table.get?_eq_some.mp found).1
    rw [reachable.closedJob_eq stored done]
    exact ⟨_, .rewritten stored⟩
  | @completed job found undone status =>
    obtain ⟨stored, rfl⟩ := Table.get?_eq_some.mp found
    have stays : db.jobs.get? (completedJob job completionTime).jobId = some job := found
    refine ⟨_, .job stays rfl rfl (fun _ => rfl) rfl (by simp [completedEvent]) rfl (Or.inl rfl)
      (status ▸ .completed _ _ _ _) rfl fun same => ?_⟩
    have state := congrArg (·.state) same
    simp [completedJob, status] at state

/-- A failed attempt is logged with the state it leaves. -/
theorem FailOutcome.logged {jobId : UUID} {workerId reason : String} {temporary : Bool}
    {baseBackoffSeconds : Int} {now : Option Time} {failureTime : Time}
    {outcome : Except StorageError ProcessingFailureResult × Database}
    (happened : FailOutcome db jobId workerId reason temporary baseBackoffSeconds failureTime
      outcome) :
    ∃ news, Logged (.failProcessingAttempt jobId workerId reason temporary baseBackoffSeconds now)
      db outcome.2 news := by
  cases happened with
  | missing | repeated | refused => exact Logged.of_eq _ rfl
  | @failed job found status =>
    obtain ⟨stored, rfl⟩ := Table.get?_eq_some.mp found
    have key := jobAfterFailure_jobId job reason temporary baseBackoffSeconds failureTime
    have ends := jobAfterFailure_state job reason temporary baseBackoffSeconds failureTime
    have attempts : (jobAfterFailure job reason temporary baseBackoffSeconds
        failureTime).attemptCount = job.attemptCount := by
      rw [jobAfterFailure]
      split_ifs <;> rfl
    have unnamed : (failureEvent (jobAfterFailure job reason temporary baseBackoffSeconds
        failureTime) reason workerId).eventName ≠ "telemetry.delivery.duplicate" := by
      rw [failureEvent]
      dsimp only
      split_ifs <;> simp
    -- Whether the job waits or has failed, the event shows its new state.
    generalize jobAfterFailure job reason temporary baseBackoffSeconds failureTime = row
      at key ends attempts unnamed
    have stays : db.jobs.get? row.jobId = some job := key ▸ found
    refine ⟨_, .job stays rfl rfl (fun _ => rfl) rfl unnamed rfl (Or.inl rfl)
      (status ▸ .failed ends.symm _ _ _ _ _ _) ?_ fun same => ?_⟩
    · rcases ends with state | state <;> simp [state, attempts]
    · rw [← same, status] at ends
      rcases ends with state | state <;> cases state

end Outcomes

/-- A call that does nothing but record an event of its caller. -/
def RepoCall.isAudit : RepoCall → Bool
  | recordAuditEvent _ => true
  | _ => false

/-- Every call but `record_audit_event` appends the events of what it does, and no others. -/
theorem RepoCall.logged {db : Database} (reachable : Reachable db) (env : Surroundings)
    {call : RepoCall} (operates : call.isAudit = false) :
    ∃ news, Logged call db (call.exec env db).2 news := by
  -- Each call has an outcome that is logged, or fails and changes nothing.
  cases call with
  | recordDelivery delivery receiptId =>
    rcases recordDelivery_serially delivery receiptId env.uuid4 db with ⟨_, failed⟩ | ⟨_, happened⟩
    · exact Logged.of_eq _ (congrArg Prod.snd failed)
    · exact happened.logged
  | rejectDelivery receiptId reason parsedIdentifiers actorIdentity =>
    exact (rejectDelivery_exec env db receiptId reason parsedIdentifiers actorIdentity).logged
  | acceptPacketAndCreateJob receiptId values maxAttempts actorIdentity =>
    rcases acceptPacketAndCreateJob_serially receiptId values
      { maxAttempts := maxAttempts, actorIdentity := actorIdentity, now := env.now } env.uuid4 db
      with ⟨_, failed⟩ | ⟨-, -, _, happened⟩
    · exact Logged.of_eq _ (congrArg Prod.snd failed)
    · exact happened.logged
  | markJobQueued jobId queueMessageId actorIdentity =>
    exact (markJobQueued_exec env db jobId queueMessageId actorIdentity).logged
  | claimProcessingJob jobId workerId leaseSeconds =>
    rcases claimProcessingJob_exec env db jobId workerId leaseSeconds with
      ⟨_, failed⟩ | ⟨-, happened⟩
    · exact Logged.of_eq _ (congrArg Prod.snd failed)
    · exact happened.logged reachable.ledger
  | completeProcessingJob jobId result workerId processedAt =>
    exact (completeProcessingJob_exec env db jobId result workerId processedAt).logged reachable
  | failProcessingAttempt jobId workerId reason temporary baseBackoffSeconds now =>
    rcases failProcessingAttempt_exec env db jobId workerId reason temporary baseBackoffSeconds now
      with ⟨_, failed⟩ | happened
    · exact Logged.of_eq _ (congrArg Prod.snd failed)
    · exact happened.logged
  | recordAuditEvent => cases operates
  | pendingQueueJobs | recoverableQueueJobs | getDelivery | getPacket | getProcessed | getJob
  | getJobForPacket | listAuditEvents | processingQueueDepth =>
    exact Logged.of_eq _ (RepoCall.read_exec env db rfl)

end Cislunar
